/-
**The parts of a select, read from its text.**

A select is cut before each word that begins a part: `SELECT`, `FROM`, the words of joins, `WHERE`,
`GROUP`, `ORDER`, `LIMIT` and `OFFSET`. Names stand in quotes, so a name is never such a word.

* `cut_gathered`: parts that are written one after the other are what their lexemes are cut into;
* `reads_head`: what is read of a select up to its condition;
* `parts_select`: the parts of a select and their order.
-/

import Polystore.Proofs.Statement.Grammar
import Polystore.Sql.Select

namespace Polystore.Sql

/-! ### Texts behind others -/

/-- **A text that gives lexemes wherever it stands**: it is empty or begins with a delimiter. -/
structure Stands (dialect : SqlDialect) (text : String) (found : List Lexeme) : Prop where
  reads : Reads dialect text found
  follows : text = "" ∨ text.toList.head?.any Lexeme.isDelimiter = true

/-- Words between delimiters, with any text behind them. -/
structure Leads (dialect : SqlDialect) (words : String) (found : List Lexeme) : Prop where
  reads : Reads dialect words found
  closes : Closes dialect words
  starts : words.toList.head?.any Lexeme.isDelimiter = true

section Texts

variable {dialect : SqlDialect} {first second words : String} {found more : List Lexeme}

theorem head?_append (starts : first.toList.head?.any Lexeme.isDelimiter = true) (second : String) :
    (first ++ second).toList.head?.any Lexeme.isDelimiter = true := by
  rw [String.toList_append]
  cases text : first.toList with
  | nil => simp [text] at starts
  | cons head rest => simpa [text] using starts

theorem stands_empty : Stands dialect "" [] := ⟨⟨rfl, rfl, rfl⟩, .inl rfl⟩

theorem reads_append (former : Reads dialect first found) (latter : Stands dialect second more) :
    Reads dialect (first ++ second) (found ++ more) := by
  rcases latter.follows with rfl | starts
  · have none : more = [] := latter.reads.lexemes.symm
    rw [none, String.append_empty, List.append_nil]
    exact former
  · exact former.append latter.reads (.inr starts)

theorem Stands.append (former : Stands dialect first found) (latter : Stands dialect second more) :
    Stands dialect (first ++ second) (found ++ more) := by
  refine ⟨reads_append former.reads latter, ?_⟩
  rcases former.follows with rfl | starts
  · rw [String.empty_append]
    exact latter.follows
  · exact .inr (head?_append starts second)

theorem Leads.append (leads : Leads dialect words found) (reads : Reads dialect second more) :
    Stands dialect (words ++ second) (found ++ more) :=
  ⟨leads.reads.append reads (.inl leads.closes), .inr (head?_append leads.starts second)⟩

/-- Lexemes with a comma between neighbours. -/
def commas : List (List Lexeme) → List Lexeme
  | [] => []
  | [only] => only
  | first :: rest => first ++ .sign ',' :: commas rest

theorem leads_comma (dialect : SqlDialect) : Leads dialect ", " [.sign ','] := by
  cases dialect <;> exact ⟨⟨rfl, rfl, rfl⟩, rfl, rfl⟩

/-- Texts between commas are read one after the other. -/
theorem reads_joined {α : Type} {text : α → String} {lexemes : α → List Lexeme}
    (each : ∀ item, Reads dialect (text item) (lexemes item)) (items : List α) :
    Reads dialect (Text.joined ", " (items.map text)) (commas (items.map lexemes)) := by
  induction items with
  | nil => exact stands_empty.reads
  | cons first rest hypothesis =>
    cases rest with
    | nil => exact each first
    | cons second rest =>
      have behind := (leads_comma dialect).append hypothesis
      have whole := reads_append (each first) behind
      rw [← String.append_assoc] at whole
      exact whole

/-- A written number is read back. -/
theorem reads_number (number : Nat) : Reads dialect (toString number) [.number number] := by
  have written : (toString number).toList = Nat.toDigits 10 number := by
    rw [Nat.toString_eq_ofList_toDigits, String.toList_ofList]
  have digits : ∀ character ∈ Nat.toDigits 10 number,
      character ≠ dialect.quoteMark ∧ CharClass.of? character = some .word := by
    intro character member
    have digit := Nat.isDigit_of_mem_toDigits (by decide) (by decide) member
    refine ⟨?_, by simp [CharClass.of?, Char.isAlphanum, digit]⟩
    rintro rfl
    cases dialect <;> exact absurd digit (by decide)
  have number_eq : Lexeme.ofRun .word (Nat.toDigits 10 number) = .number number := by
    rw [Lexeme.ofRun, Lexeme.ofWord, isNumber_toDigits, if_pos rfl, Nat.ofDigitChars_ten_toDigits]
  cases whole : Nat.toDigits 10 number with
  | nil => exact absurd whole Nat.toDigits_ne_nil
  | cons head rest =>
    rw [whole] at digits number_eq
    obtain ⟨unlike, classed⟩ := digits head List.mem_cons_self
    have begun : Lexeme.Pending.nothing.next dialect.quoteMark head = ([], .run .word [head]) := by
      simp [Lexeme.Pending.next, Lexeme.Pending.started, unlike, classed]
    obtain ⟨lexemes, after⟩ := lexemesFrom_run [head] fun character member =>
      digits character (List.mem_cons_of_mem _ member)
    refine ⟨?_, ?_, rfl⟩
    · rw [written, whole, Lexeme.Pending.after, List.foldl_cons, begun]
      exact congrArg Lexeme.Pending.isOutside after
    · rw [Lexeme.lexemesOf, written, whole, Lexeme.lexemesFrom, begun, List.nil_append, lexemes]
      exact congrArg ([·]) number_eq

end Texts

/-! ### Parts -/

/-- The parts of a select. -/
inductive Part where
  | columns
  | source
  | join (kind : JoinKind)
  | condition
  | groups
  | orders
  | limit
  | offset
  deriving DecidableEq, Repr

namespace Part

/-- The word that a part begins with. -/
def text : Part → String
  | columns => "SELECT"
  | source => "FROM"
  | join .inner => "INNER"
  | join .left => "LEFT"
  | join .right => "RIGHT"
  | join .full => "FULL"
  | join .cross => "CROSS"
  | condition => "WHERE"
  | groups => "GROUP"
  | orders => "ORDER"
  | limit => "LIMIT"
  | offset => "OFFSET"

/-- The part that a word begins, in whatever case it is written. -/
def ofWord? : String → Option Part
  | "SELECT" => some columns
  | "FROM" => some source
  | "INNER" => some (join .inner)
  | "LEFT" => some (join .left)
  | "RIGHT" => some (join .right)
  | "FULL" => some (join .full)
  | "CROSS" => some (join .cross)
  | "GROUP" => some groups
  | "ORDER" => some orders
  | "LIMIT" => some limit
  | "OFFSET" => some offset
  | _ => none

/-- The lexeme that a part begins with. -/
def opening (part : Part) : Lexeme :=
  if part = condition then .keyword .filter else .other part.text.toList

end Part

/-- The part that a lexeme begins. -/
def Lexeme.part? : Lexeme → Option Part
  | .keyword .filter => some .condition
  | .other text => Part.ofWord? (String.ofList (text.map Char.toUpper))
  | _ => none

/-- Lexemes cut before those that begin a part: what stands before the first part, and the parts. -/
def cut : List Lexeme → List Lexeme × List (Part × List Lexeme)
  | [] => ([], [])
  | lexeme :: rest =>
    match lexeme.part? with
    | some part => ([], (part, (cut rest).1) :: (cut rest).2)
    | none => (lexeme :: (cut rest).1, (cut rest).2)

/-- **The parts of a text**, each with the lexemes behind its first word. -/
def parts (lexemes : List Lexeme) : List (Part × List Lexeme) := (cut lexemes).2

/-- Lexemes that begin no part. -/
def IsPlain (lexemes : List Lexeme) : Prop := ∀ lexeme ∈ lexemes, lexeme.part? = none

/-- Parts written one after the other. -/
def gathered (sections : List (Part × List Lexeme)) : List Lexeme :=
  sections.flatMap fun (part, own) => part.opening :: own

section Cuts

variable {first second : List Lexeme}

theorem gathered_append (first second : List (Part × List Lexeme)) :
    gathered (first ++ second) = gathered first ++ gathered second :=
  List.flatMap_append

theorem part?_opening (part : Part) : part.opening.part? = some part := by
  match part with
  | .join kind => cases kind <;> rfl
  | .columns | .source | .condition | .groups | .orders | .limit | .offset => rfl

theorem cut_append (plain : IsPlain first) (rest : List Lexeme) :
    cut (first ++ rest) = (first ++ (cut rest).1, (cut rest).2) := by
  induction first with
  | nil => rfl
  | cons lexeme others hypothesis =>
    rw [List.cons_append, cut, plain lexeme List.mem_cons_self,
      hypothesis fun other member => plain other (List.mem_cons_of_mem _ member)]
    rfl

/-- **Parts are what their lexemes are cut into.** -/
theorem cut_gathered {sections : List (Part × List Lexeme)}
    (plain : ∀ part ∈ sections, IsPlain part.2) : cut (gathered sections) = ([], sections) := by
  induction sections with
  | nil => rfl
  | cons head rest hypothesis =>
    obtain ⟨part, own⟩ := head
    have behind := hypothesis fun other member => plain other (List.mem_cons_of_mem _ member)
    show cut (part.opening :: (own ++ gathered rest)) = _
    rw [cut, part?_opening, cut_append (plain _ List.mem_cons_self), behind]
    show ([], (part, own ++ []) :: rest) = _
    rw [List.append_nil]

theorem isPlain_nil : IsPlain [] := nofun

theorem IsPlain.append (former : IsPlain first) (latter : IsPlain second) : IsPlain (first ++ second) := by
  intro lexeme member
  rcases List.mem_append.mp member with here | there
  · exact former lexeme here
  · exact latter lexeme there

theorem isPlain_cons {lexeme : Lexeme} (plain : lexeme.part? = none) (rest : IsPlain first) :
    IsPlain (lexeme :: first) :=
  have single : IsPlain [lexeme] := fun _ member => List.mem_singleton.mp member ▸ plain
  single.append rest

theorem isPlain_path (segments : List String) : IsPlain (pathLexemes segments) := by
  have single (segment : String) : (segmentLexeme segment).part? = none := by
    unfold segmentLexeme
    split <;> rfl
  induction segments with
  | nil => exact isPlain_nil
  | cons first rest hypothesis =>
    cases rest with
    | nil => exact isPlain_cons (single first) isPlain_nil
    | cons second rest => exact isPlain_cons (single first) (isPlain_cons rfl hypothesis)

theorem isPlain_commas {items : List (List Lexeme)} (each : ∀ item ∈ items, IsPlain item) :
    IsPlain (commas items) := by
  induction items with
  | nil => exact isPlain_nil
  | cons first rest hypothesis =>
    have others := hypothesis fun item member => each item (List.mem_cons_of_mem _ member)
    cases rest with
    | nil => exact each first List.mem_cons_self
    | cons second rest => exact (each first List.mem_cons_self).append (isPlain_cons rfl others)

end Cuts

/-! ### Conditions hold no words of other parts -/

section Conditions

theorem isPlain_dotted (segments : List String) : IsPlain (dotted segments) := by
  induction segments with
  | nil => exact isPlain_nil
  | cons first rest hypothesis =>
    cases rest with
    | nil => exact isPlain_cons rfl isPlain_nil
    | cons second rest => exact isPlain_cons rfl (isPlain_cons rfl hypothesis)

theorem isPlain_separated (values : List Value) : IsPlain (separatedLexemes values) := by
  induction values with
  | nil => exact isPlain_cons rfl isPlain_nil
  | cons first rest hypothesis =>
    cases rest with
    | nil => exact isPlain_cons rfl (isPlain_cons rfl isPlain_nil)
    | cons second rest => exact isPlain_cons rfl (isPlain_cons rfl hypothesis)

theorem isPlain_negation (negated : Bool) : IsPlain (negationLexemes negated) := by
  cases negated
  · exact isPlain_nil
  · exact isPlain_cons rfl isPlain_nil

theorem IsTest.isPlain {lexemes : List Lexeme} {test : Test} (is : IsTest lexemes test) :
    IsPlain lexemes := by
  have plain {lexemes : List Lexeme} (none : lexemes.all (·.part?.isNone) = true) : IsPlain lexemes :=
    fun lexeme member => Option.isNone_iff_eq_none.mp (List.all_eq_true.mp none lexeme member)
  cases is with
  | compare => exact (isPlain_dotted _).append (plain rfl)
  | isNull _ negated =>
    exact (isPlain_dotted _).append (isPlain_cons rfl ((isPlain_negation negated).append (plain rfl)))
  | oneOf _ _ negated =>
    exact (isPlain_dotted _).append ((isPlain_negation negated).append
      (isPlain_cons rfl (isPlain_cons rfl (isPlain_separated _))))
  | between _ low high negated =>
    exact (isPlain_dotted _).append ((isPlain_negation negated).append (plain rfl))
  | like => exact isPlain_cons rfl (isPlain_cons rfl ((isPlain_dotted _).append (plain rfl)))
  | numbers => exact plain rfl

mutual

theorem IsFactor.isPlain {lexemes : List Lexeme} {tree : RunTree Test} :
    IsFactor lexemes tree → IsPlain lexemes
  | .test is => is.isPlain
  | .group inside =>
    isPlain_cons rfl (inside.isPlain.append (isPlain_cons rfl isPlain_nil))

theorem IsProduct.isPlain {lexemes : List Lexeme} {run : List (RunTree Test)} :
    IsProduct lexemes run → IsPlain lexemes
  | .single only => only.isPlain
  | .and one rest => one.isPlain.append (isPlain_cons rfl rest.isPlain)

/-- **A condition holds no words of other parts.** -/
theorem IsSum.isPlain {lexemes : List Lexeme} {runs : List (List (RunTree Test))} :
    IsSum lexemes runs → IsPlain lexemes
  | .single only => only.isPlain
  | .or one rest => one.isPlain.append (isPlain_cons rfl rest.isPlain)

end

end Conditions

/-! ### What is written for a select -/

/-- A word of no part. -/
def word (text : String) : Lexeme := .other text.toList

/-- The segments of a dotted name. -/
abbrev pathOf (name : String) : List String := Text.segmentsOf '.' name

/-- What is selected: a path, and the name that it is shown under if one is given. -/
structure Selection where
  path : List String
  shownAs : Option String
  deriving DecidableEq, Repr

namespace Selection

/-- A selection as SQL. -/
def text (dialect : SqlDialect) (selection : Selection) : String :=
  Text.joined "." (selection.path.map dialect.quoteSegment)
    ++ selection.shownAs.elim "" fun name => " AS " ++ dialect.quoteWhole name

def lexemes (selection : Selection) : List Lexeme :=
  pathLexemes selection.path ++ selection.shownAs.elim [] fun name => [word "AS", .name name]

end Selection

/-- The selections of the base table. -/
def baseSelected (scope : ColumnScope) (query : Query) : List Selection :=
  if !query.distinct.isEmpty then query.distinct.map fun name => ⟨scope.path name, none⟩
  else if query.columns.isEmpty then
    [⟨if query.hasJoins then pathOf (scope.base ++ ".*") else ["*"], none⟩]
  else query.columns.map fun column => ⟨scope.path column.name, column.shownAs⟩

/-- The selections of a joined table. -/
def joinSelected (columns : TargetColumns) (join : Join) : List Selection :=
  match columns.of? join.target with
  | some names =>
    names.map fun name => ⟨pathOf (join.target ++ "." ++ name), some (join.target ++ "." ++ name)⟩
  | none => [⟨pathOf (join.target ++ ".*"), none⟩]

/-- All selections of a query. -/
def selected (scope : ColumnScope) (columns : TargetColumns) (query : Query) : List Selection :=
  baseSelected scope query ++ query.joins.flatMap (joinSelected columns)

/-- The lexemes behind the first word of a join. -/
def joinLexemes (scope : ColumnScope) (join : Join) : List Lexeme :=
  (if join.kind = .full then [word "OUTER", word "JOIN"] else [word "JOIN"])
    ++ pathLexemes (pathOf join.table)
    ++ (if join.target = join.table then [] else word "AS" :: pathLexemes (pathOf join.target))
    ++ (if join.kind = .cross then []
      else
        word "ON" :: (pathLexemes (pathOf
            (if Text.hasChar '.' join.localKey then join.localKey else scope.base ++ "." ++ join.localKey))
          ++ .operator .equal :: pathLexemes (pathOf (join.target ++ "." ++ join.foreignKey))))

/-- The part of a join. -/
def joinPart (scope : ColumnScope) (join : Join) : Part × List Lexeme :=
  (.join join.kind, joinLexemes scope join)

def groupParts (scope : ColumnScope) (groups : List String) : List (Part × List Lexeme) :=
  if groups.isEmpty then []
  else [(.groups, word "BY" :: commas (groups.map fun name => pathLexemes (scope.path name)))]

def orderParts (scope : ColumnScope) (orders : List Order) : List (Part × List Lexeme) :=
  if orders.isEmpty then []
  else
    [(.orders, word "BY" :: commas
      (orders.map fun order => pathLexemes (scope.path order.column) ++ [word order.direction.sql]))]

/-- The parts of a window. An offset alone needs a limit in some dialects. -/
def windowParts (dialect : SqlDialect) (limit offset : Option Nat) : List (Part × List Lexeme) :=
  match limit, offset with
  | some limit, some offset => [(.limit, [.number limit]), (.offset, [.number offset])]
  | some limit, none => [(.limit, [.number limit])]
  | none, some offset =>
    (dialect.unboundedLimit.toList.map fun unbounded =>
      (.limit, Lexeme.lexemesOf dialect.quoteMark unbounded)) ++ [(.offset, [.number offset])]
  | none, none => []

/-- **The parts of a select, in their order**: columns, source, joins, condition, groups, orders and
window. -/
def selectParts (scope : ColumnScope) (columns : TargetColumns) (table : String) (query : Query)
    (condition : List Lexeme) : List (Part × List Lexeme) :=
  (.columns, (if query.distinct.isEmpty then [] else [word "DISTINCT"])
      ++ commas ((selected scope columns query).map Selection.lexemes))
    :: (.source, pathLexemes (pathOf table)
      ++ if scope.base = table then [] else word "AS" :: pathLexemes (pathOf scope.base))
    :: query.joins.map (joinPart scope)
    ++ (if query.clauses.isEmpty then [] else [(.condition, condition)])
    ++ groupParts scope query.groups ++ orderParts scope query.orders
    ++ windowParts scope.dialect query.limit query.offset

section Select

variable {scope : ColumnScope} {dialect : SqlDialect}

theorem reads_selection (selection : Selection) :
    Reads dialect (selection.text dialect) selection.lexemes := by
  have leads : Leads dialect " AS " [word "AS"] := by cases dialect <;> exact ⟨⟨rfl, rfl, rfl⟩, rfl, rfl⟩
  refine reads_append (reads_path selection.path) ?_
  cases selection.shownAs with
  | none => exact stands_empty
  | some name => exact leads.append (reads_quoteWhole name)

theorem baseSelections_eq (scope : ColumnScope) (query : Query) :
    baseSelections scope query = (baseSelected scope query).map (Selection.text scope.dialect) := by
  have plain (name : String) :
      scope.column name = Selection.text scope.dialect ⟨scope.path name, none⟩ := by
    rw [column_eq_joined, Selection.text, Option.elim_none, String.append_empty]
  unfold baseSelections baseSelected
  split
  · rw [List.map_map]
    exact List.map_congr_left fun name _ => plain name
  · split
    · split <;> exact congrArg ([·]) (String.append_empty).symm
    · rw [List.map_map]
      refine List.map_congr_left fun column _ => ?_
      rw [selectedColumn, Function.comp_apply]
      cases column.shownAs with
      | none => exact plain column.name
      | some shown =>
        rw [column_eq_joined]
        exact String.append_assoc ..

theorem joinSelections_eq (columns : TargetColumns) (join : Join) :
    joinSelections dialect columns join = (joinSelected columns join).map (Selection.text dialect) := by
  unfold joinSelections joinSelected
  cases columns.of? join.target with
  | none => exact congrArg ([·]) String.append_empty.symm
  | some names =>
    show _ = List.map _ (List.map _ names)
    rw [List.map_map]
    exact List.map_congr_left fun name _ => String.append_assoc ..

theorem selections_eq (scope : ColumnScope) (columns : TargetColumns) (query : Query) :
    baseSelections scope query ++ query.joins.flatMap (joinSelections scope.dialect columns) =
      (selected scope columns query).map (Selection.text scope.dialect) := by
  rw [selected, List.map_append, ← baseSelections_eq, List.map_flatMap]
  refine congrArg (_ ++ ·) (List.flatMap_congr fun join _ => ?_)
  exact joinSelections_eq columns join

/-- A dotted name behind words. -/
theorem Leads.path {words : String} {found : List Lexeme} (leads : Leads dialect words found) (name : String) :
    Stands dialect (words ++ dialect.quote name) (found ++ pathLexemes (pathOf name)) :=
  leads.append (reads_path _)

/-- The name that a table is shown under. -/
theorem stands_shown (table shown : String) :
    Stands dialect (if shown = table then "" else " AS " ++ dialect.quote shown)
      (if shown = table then [] else word "AS" :: pathLexemes (pathOf shown)) := by
  have leads : Leads dialect " AS " [word "AS"] := by cases dialect <;> exact ⟨⟨rfl, rfl, rfl⟩, rfl, rfl⟩
  split
  · exact stands_empty
  · exact leads.path shown

/-- The words of a join. -/
theorem leads_joinKind (kind : JoinKind) :
    Leads dialect (" " ++ kind.sql ++ " ")
      ((Part.join kind).opening :: if kind = .full then [word "OUTER", word "JOIN"] else [word "JOIN"]) := by
  cases dialect <;> cases kind <;> exact ⟨⟨rfl, rfl, rfl⟩, rfl, rfl⟩

/-- **A join is read as its part.** -/
theorem stands_joinText (scope : ColumnScope) (join : Join) :
    Stands scope.dialect (joinText scope join) (gathered [joinPart scope join]) := by
  have on : Leads scope.dialect " ON " [word "ON"] := by
    cases scope.dialect <;> exact ⟨⟨rfl, rfl, rfl⟩, rfl, rfl⟩
  have equals : Leads scope.dialect " = " [.operator .equal] := by
    cases scope.dialect <;> exact ⟨⟨rfl, rfl, rfl⟩, rfl, rfl⟩
  have condition (localName foreignName : String) (isCross : Prop) [Decidable isCross] :
      Stands scope.dialect
        (if isCross then ""
          else " ON " ++ scope.dialect.quote localName ++ " = " ++ scope.dialect.quote foreignName)
        (if isCross then []
          else word "ON" :: (pathLexemes (pathOf localName)
            ++ .operator .equal :: pathLexemes (pathOf foreignName))) := by
    split
    · exact stands_empty
    · have whole := (on.path localName).append (equals.path foreignName)
      rw [← String.append_assoc] at whole
      exact whole
  have whole := ((leads_joinKind join.kind).path join.table).append
    ((stands_shown join.table join.target).append (condition
      (if Text.hasChar '.' join.localKey then join.localKey else scope.base ++ "." ++ join.localKey)
      (join.target ++ "." ++ join.foreignKey) (join.kind = .cross)))
  have same : gathered [joinPart scope join] = (Part.join join.kind).opening :: joinLexemes scope join := by
    simp [gathered, joinPart]
  rw [same, joinLexemes, joinText]
  simpa only [List.append_assoc, List.cons_append, String.append_assoc] using whole

/-- Joins are read one after the other. -/
theorem stands_joins (scope : ColumnScope) (joins : List Join) :
    Stands scope.dialect (String.join (joins.map (joinText scope)))
      (gathered (joins.map (joinPart scope))) := by
  induction joins with
  | nil => exact stands_empty
  | cons join rest hypothesis =>
    have whole := (stands_joinText scope join).append hypothesis
    rw [List.map_cons, String.join_cons]
    simpa [gathered] using whole

theorem stands_groupText (scope : ColumnScope) (groups : List String) :
    Stands scope.dialect (groupText scope groups) (gathered (groupParts scope groups)) := by
  unfold groupText groupParts
  split
  · exact stands_empty
  · have leads : Leads scope.dialect " GROUP BY " [Part.groups.opening, word "BY"] := by
      cases scope.dialect <;> exact ⟨⟨rfl, rfl, rfl⟩, rfl, rfl⟩
    have column (name : String) :
        Reads scope.dialect (scope.column name) (pathLexemes (scope.path name)) := by
      rw [column_eq_joined]
      exact reads_path _
    have columns := reads_joined column groups
    simpa [gathered] using leads.append columns

theorem stands_orderText (scope : ColumnScope) (orders : List Order) :
    Stands scope.dialect (orderText scope orders) (gathered (orderParts scope orders)) := by
  unfold orderText orderParts
  split
  · exact stands_empty
  · have leads : Leads scope.dialect " ORDER BY " [Part.orders.opening, word "BY"] := by
      cases scope.dialect <;> exact ⟨⟨rfl, rfl, rfl⟩, rfl, rfl⟩
    have direction (given : Direction) : Stands scope.dialect (" " ++ given.sql) [word given.sql] := by
      cases scope.dialect <;> cases given <;> exact ⟨⟨rfl, rfl, rfl⟩, .inr rfl⟩
    have column (order : Order) :
        Reads scope.dialect (scope.column order.column ++ " " ++ order.direction.sql)
          (pathLexemes (scope.path order.column) ++ [word order.direction.sql]) := by
      rw [column_eq_joined, String.append_assoc]
      exact reads_append (reads_path _) (direction order.direction)
    have columns := reads_joined column orders
    simpa [gathered] using leads.append columns

theorem stands_windowText (limit offset : Option Nat) :
    Stands dialect (windowText dialect limit offset) (gathered (windowParts dialect limit offset)) := by
  have limits : Leads dialect " LIMIT " [Part.limit.opening] := by
    cases dialect <;> exact ⟨⟨rfl, rfl, rfl⟩, rfl, rfl⟩
  have offsets : Leads dialect " OFFSET " [Part.offset.opening] := by
    cases dialect <;> exact ⟨⟨rfl, rfl, rfl⟩, rfl, rfl⟩
  cases limit with
  | none =>
    cases offset with
    | none => exact stands_empty
    | some offset =>
      have behind := offsets.append (reads_number offset)
      have unbounded : ∀ text, dialect.unboundedLimit = some text →
          Reads dialect text (Lexeme.lexemesOf dialect.quoteMark text) := by
        cases dialect <;> rintro text ⟨⟩ <;> exact ⟨rfl, rfl, rfl⟩
      unfold windowText windowParts
      cases given : dialect.unboundedLimit with
      | none => simpa [gathered, given] using behind
      | some text =>
        have whole := (limits.append (unbounded text given)).append behind
        rw [← String.append_assoc] at whole
        simpa [gathered, given] using whole
  | some limit =>
    have first := limits.append (reads_number limit)
    cases offset with
    | none => exact first
    | some offset =>
      have whole := first.append (offsets.append (reads_number offset))
      rw [← String.append_assoc] at whole
      exact whole

/-! ### The whole select -/

/-- What is read of pieces and a text behind them. -/
theorem lexemes_ending {pieces : List Fragment} {ending : String} {found : List Lexeme}
    (apart : Apart dialect pieces) (stands : Stands dialect ending found) :
    dialect.lexemes (dialect.statement (pieces ++ [.text ending])) =
      lexemesOfAll dialect pieces ++ found := by
  rcases stands.follows with rfl | starts
  · have none : found = [] := stands.reads.lexemes.symm
    have same : dialect.statement (pieces ++ [.text ""]) = dialect.statement pieces := by
      simp [SqlDialect.statement, Fragment.render_append, Fragment.values_append, Fragment.render,
        Fragment.values]
    rw [same, lexemes_statement apart, none, List.append_nil]
  · have last : Apart dialect [.text ending] := ⟨stands.reads.own, .inr rfl, trivial⟩
    have whole := apart_append apart last starts
    rw [lexemes_statement whole, List.flatMap_append, List.flatMap_singleton, Fragment.lexemes,
      stands.reads.lexemes]

/-- What is written before the condition. -/
theorem reads_head (scope : ColumnScope) (columns : TargetColumns) (table : String) (query : Query) :
    Reads scope.dialect
      ("SELECT " ++ (if query.distinct.isEmpty then "" else "DISTINCT ")
        ++ Text.joined ", " (baseSelections scope query
          ++ query.joins.flatMap (joinSelections scope.dialect columns))
        ++ " FROM " ++ scope.dialect.quote table
        ++ (if scope.base = table then "" else " AS " ++ scope.dialect.quote scope.base)
        ++ String.join (query.joins.map (joinText scope)))
      (gathered ((.columns, (if query.distinct.isEmpty then [] else [word "DISTINCT"])
          ++ commas ((selected scope columns query).map Selection.lexemes))
        :: (.source, pathLexemes (pathOf table)
          ++ if scope.base = table then [] else word "AS" :: pathLexemes (pathOf scope.base))
        :: query.joins.map (joinPart scope))) := by
  have first : Reads scope.dialect ("SELECT " ++ if query.distinct.isEmpty then "" else "DISTINCT ")
      (Part.columns.opening :: if query.distinct.isEmpty then [] else [word "DISTINCT"]) ∧
      Closes scope.dialect ("SELECT " ++ if query.distinct.isEmpty then "" else "DISTINCT ") := by
    cases scope.dialect <;> split <;> exact ⟨⟨rfl, rfl, rfl⟩, rfl⟩
  have source : Leads scope.dialect " FROM " [Part.source.opening] := by
    cases scope.dialect <;> exact ⟨⟨rfl, rfl, rfl⟩, rfl, rfl⟩
  have selection (given : Selection) : Reads scope.dialect (given.text scope.dialect) given.lexemes :=
    reads_selection given
  have list := reads_joined selection (selected scope columns query)
  have behind := (source.path table).append
    ((stands_shown table scope.base).append (stands_joins scope query.joins))
  have whole := reads_append (first.1.append list (.inl first.2)) behind
  rw [selections_eq]
  simpa [gathered, String.append_assoc] using whole

/-- The pieces of a condition: none without clauses, else its word and what is read as the formulas of the
clauses. -/
theorem exists_condition (scope : ColumnScope) (clauses : List Clause)
    (each : ∀ leaf ∈ Clause.leaves clauses, IsWritable scope leaf) :
    ∃ pieces condition, whereFragments scope clauses = .ok pieces ∧ Apart scope.dialect pieces ∧
      Fragment.startDelimited pieces = true ∧ IsPlain condition ∧
      lexemesOfAll scope.dialect pieces =
        (if clauses.isEmpty then [] else Part.condition.opening :: condition) ∧
      readCondition (if clauses.isEmpty then [] else Part.condition.opening :: condition) =
        some (Predicate.formulas scope true clauses) := by
  by_cases present : clauses = []
  · subst present
    exact ⟨[], [], rfl, trivial, rfl, isPlain_nil, rfl, rfl⟩
  · obtain ⟨inner, written, spells⟩ := spells_clauses scope present each
    obtain ⟨reads, closes⟩ := reads_where scope.dialect
    have isEmpty : clauses.isEmpty = false := List.isEmpty_eq_false_iff.mpr present
    have read := spells.read _ [] endsClauses_nil (Nat.lt_succ_self _)
    rw [List.append_nil] at read
    obtain ⟨_, words, sum, same⟩ := exists_isSum_of_readClauses _ read
    rw [List.append_nil] at same
    refine ⟨.text " WHERE " :: inner, words, ?_, ⟨reads.own, .inl closes, spells.apart⟩, rfl,
      sum.isPlain, ?_, ?_⟩
    · simp only [whereFragments, isEmpty, written]
      rfl
    · rw [isEmpty, lexemesOfAll, List.flatMap_cons, Fragment.lexemes, reads.lexemes]
      exact congrArg (Part.condition.opening :: ·) same
    · rw [isEmpty, if_neg Bool.false_ne_true, ← same]
      show readCondition (.keyword .filter :: _) = _
      rw [readCondition, read]

theorem isPlain_selection (selection : Selection) : IsPlain selection.lexemes := by
  refine (isPlain_path _).append ?_
  cases selection.shownAs with
  | none => exact isPlain_nil
  | some name => exact isPlain_cons rfl (isPlain_cons rfl isPlain_nil)

theorem isPlain_shown (table shown : String) :
    IsPlain (if shown = table then [] else word "AS" :: pathLexemes (pathOf shown)) := by
  split
  · exact isPlain_nil
  · exact isPlain_cons rfl (isPlain_path _)

theorem isPlain_joinLexemes (scope : ColumnScope) (join : Join) : IsPlain (joinLexemes scope join) := by
  have words : IsPlain (if join.kind = .full then [word "OUTER", word "JOIN"] else [word "JOIN"]) := by
    split
    · exact isPlain_cons rfl (isPlain_cons rfl isPlain_nil)
    · exact isPlain_cons rfl isPlain_nil
  refine ((words.append (isPlain_path _)).append (isPlain_shown _ _)).append ?_
  split
  · exact isPlain_nil
  · exact isPlain_cons rfl ((isPlain_path _).append (isPlain_cons rfl (isPlain_path _)))

theorem isPlain_windowParts (limit offset : Option Nat) :
    ∀ part ∈ windowParts dialect limit offset, IsPlain part.2 := by
  have number (value : Nat) : IsPlain [.number value] := isPlain_cons rfl isPlain_nil
  have unbounded : ∀ text, dialect.unboundedLimit = some text →
      IsPlain (Lexeme.lexemesOf dialect.quoteMark text) := by
    cases dialect with
    | sqlite => rintro text ⟨⟩; exact isPlain_cons rfl (isPlain_cons rfl isPlain_nil)
    | mySql => rintro text ⟨⟩; exact isPlain_cons rfl isPlain_nil
    | postgres => nofun
  intro part member
  cases limit with
  | some limit =>
    cases offset with
    | none => exact List.mem_singleton.mp member ▸ number limit
    | some offset =>
      rcases List.mem_cons.mp member with rfl | member
      · exact number limit
      · exact List.mem_singleton.mp member ▸ number offset
  | none =>
    cases offset with
    | none => cases member
    | some offset =>
      rcases List.mem_append.mp member with before | member
      · obtain ⟨text, given, rfl⟩ := List.mem_map.mp before
        exact unbounded text (Option.mem_toList.mp given)
      · exact List.mem_singleton.mp member ▸ number offset

/-- No part holds a word that begins another one. -/
theorem isPlain_selectParts (scope : ColumnScope) (columns : TargetColumns) (table : String) (query : Query)
    {condition : List Lexeme} (plain : IsPlain condition) :
    ∀ part ∈ selectParts scope columns table query condition, IsPlain part.2 := by
  intro part member
  simp only [selectParts, List.mem_append, List.mem_cons, List.cons_append, or_assoc] at member
  rcases member with rfl | rfl | member | member | member | member | member
  · refine IsPlain.append ?_ (isPlain_commas fun item listed => ?_)
    · split
      · exact isPlain_nil
      · exact isPlain_cons rfl isPlain_nil
    · obtain ⟨selection, _, rfl⟩ := List.mem_map.mp listed
      exact isPlain_selection selection
  · exact (isPlain_path _).append (isPlain_shown _ _)
  · obtain ⟨join, _, rfl⟩ := List.mem_map.mp member
    exact isPlain_joinLexemes scope join
  · split at member
    · cases member
    · exact List.mem_singleton.mp member ▸ plain
  · unfold groupParts at member
    split at member
    · cases member
    · obtain rfl := List.mem_singleton.mp member
      refine isPlain_cons rfl (isPlain_commas fun item listed => ?_)
      obtain ⟨name, _, rfl⟩ := List.mem_map.mp listed
      exact isPlain_path _
  · unfold orderParts at member
    split at member
    · cases member
    · obtain rfl := List.mem_singleton.mp member
      refine isPlain_cons rfl (isPlain_commas fun item listed => ?_)
      obtain ⟨order, _, rfl⟩ := List.mem_map.mp listed
      refine (isPlain_path _).append ?_
      cases order.direction <;> exact isPlain_cons rfl isPlain_nil
  · exact isPlain_windowParts _ _ part member

/-- **The parts of a select stand in their order**: its text is read as its parts one behind the other, and
its condition as the formulas of the clauses. -/
theorem parts_select {dialect : SqlDialect} {query : Query} {table : String} {scope : ColumnScope}
    (named : query.requireTable = .ok table) (inScope : columnScope dialect query = .ok scope)
    (each : ∀ leaf ∈ Clause.leaves query.clauses, IsWritable scope leaf) (columns : TargetColumns) :
    ∃ statement condition, selectStatement dialect columns query = .ok statement ∧
      dialect.lexemes statement = gathered (selectParts scope columns table query condition) ∧
      parts (dialect.lexemes statement) = selectParts scope columns table query condition ∧
      readCondition (if query.clauses.isEmpty then [] else Part.condition.opening :: condition) =
        some (Predicate.formulas scope true query.clauses) := by
  obtain ⟨pieces, condition, written, apart, starts, plain, lexemes, read⟩ :=
    exists_condition scope query.clauses each
  obtain rfl : scope.dialect = dialect := by
    obtain ⟨_, _, rfl⟩ := map_eq_ok.mp inScope
    rfl
  have head := reads_head scope columns table query
  have ending := ((stands_groupText scope query.groups).append
    (stands_orderText scope query.orders)).append (stands_windowText query.limit query.offset)
  have begun : Apart scope.dialect (.text _ :: pieces) := ⟨head.own, .inr starts, apart⟩
  have opened := lexemes_ending begun ending
  have middle : pieces.flatMap (Fragment.lexemes scope.dialect) =
      gathered (if query.clauses.isEmpty then [] else [(.condition, condition)]) := by
    refine lexemes.trans ?_
    split
    · rfl
    · exact (List.append_nil _).symm
  rw [lexemesOfAll, List.flatMap_cons, Fragment.lexemes, head.lexemes, middle,
    ← List.append_assoc, ← List.append_assoc, ← gathered_append, ← gathered_append, ← gathered_append,
    ← gathered_append] at opened
  have cuts := cut_gathered (isPlain_selectParts scope columns table query plain)
  refine ⟨_, condition, ?_, opened, ?_, read⟩
  · exact map_eq_ok.mpr ⟨_, bind_eq_ok.mpr ⟨table, named, bind_eq_ok.mpr ⟨scope, inScope,
      bind_eq_ok.mpr ⟨pieces, written, rfl⟩⟩⟩, rfl⟩
  · rw [opened]
    exact congrArg Prod.snd cuts

end Select

end Polystore.Sql
