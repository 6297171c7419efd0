/-
**The sort document of a list of orders, and the `ORDER BY` of the same list.**

A sort document holds each field once: at the place where it is first asked for, in the direction in which
it is last asked for. The list itself, and the `ORDER BY` written for it, compare by the first entry of a
field, behind which its other entries decide nothing.

* `ofFields_settled`: entries give the same document in the direction in which their field is last asked
  for;
* `compareAll_eq_find?`: a list of orders is decided by the first entry whose fields differ;
* `orderTerms_orderText`: an `ORDER BY` is read as the entries of its list;
* `documentOrder_sort_iff`: so the sort document compares as the list does, for all documents, exactly if
  no field is first asked for in another direction than last.
-/

import Polystore.Proofs.Memory.Ordering
import Polystore.Proofs.Statement.Outputs

namespace Polystore

open Memory Native

/-! ### Fields that are written more than once -/

namespace Document

variable {document fields left right : Document} {key : String}

theorem keys_extend_eq_foldl (document fields : Document) :
    keys (extend document fields) =
      (keys fields).foldl (fun known key => if key ∈ known then known else known ++ [key])
        (keys document) := by
  induction fields generalizing document with
  | nil => rfl
  | cons field rest hypothesis =>
    show keys (extend (insert field.1 field.2 document) rest) = _
    rw [hypothesis, keys_insert]
    rfl

theorem nodup_keys_extend (distinct : (keys document).Nodup) (fields : Document) :
    (keys (extend document fields)).Nodup := by
  induction fields generalizing document with
  | nil => exact distinct
  | cons field rest hypothesis => exact hypothesis (nodup_keys_insert distinct field.1 field.2)

theorem get?_append (key : String) (first second : Document) :
    get? key (first ++ second) = (get? key first).or (get? key second) := by
  induction first with
  | nil => rfl
  | cons field rest hypothesis =>
    by_cases same : field.1 = key
    · simp [get?, same]
    · simp [get?, same, hypothesis]

/-- The last value that is written under a key stays. -/
theorem get?_extend_reverse (key : String) (document fields : Document) :
    get? key (extend document fields) = (get? key fields.reverse).or (get? key document) := by
  induction fields generalizing document with
  | nil => rfl
  | cons field rest hypothesis =>
    show get? key (extend (insert field.1 field.2 document) rest) = _
    rw [hypothesis, List.reverse_cons, get?_append, Option.or_assoc]
    by_cases same : field.1 = key
    · subst same
      simp [get?, get?_insert_self]
    · simp [get?, same, get?_insert_of_ne (Ne.symm same)]

/-- A document is determined by its keys and what they lead to. -/
theorem eq_of_get? (distinct : (keys left).Nodup) (same : keys left = keys right)
    (agree : ∀ key, get? key left = get? key right) : left = right := by
  induction left generalizing right with
  | nil => exact (List.map_eq_nil_iff.mp same.symm).symm
  | cons field rest hypothesis =>
    obtain ⟨name, value⟩ := field
    cases right with
    | nil => cases same
    | cons other others =>
      obtain ⟨otherName, otherValue⟩ := other
      obtain ⟨rfl, tails⟩ := List.cons.inj same
      obtain ⟨fresh, distinctRest⟩ := List.nodup_cons.mp distinct
      have values : value = otherValue := by simpa [get?] using agree name
      have absent {document : Document} (missing : name ∉ keys document) : get? name document = none :=
        Option.not_isSome_iff_eq_none.mp fun present => missing (contains_iff.mp present)
      have behind : ∀ key, get? key rest = get? key others := by
        intro key
        by_cases here : name = key
        · subst here
          have freshOthers : name ∉ keys others := by rwa [keys, ← tails]
          rw [absent fresh, absent freshOthers]
        · simpa [get?, here] using agree key
      rw [values, hypothesis distinctRest tails behind]

end Document

/-! ### The entries of a field -/

namespace Order

variable {orders : List Order} {name : String}

/-- Whether an order asks for a field. -/
def names (name : String) (order : Order) : Bool := field order.column == name

/-- The direction in which a field is first asked for. -/
def first? (name : String) (orders : List Order) : Option Direction :=
  (orders.find? (names name)).map (·.direction)

/-- The direction in which a field is last asked for. -/
def last? (name : String) (orders : List Order) : Option Direction := first? name orders.reverse

/-- An entry in the direction in which its field is last asked for. -/
def settled (orders : List Order) (order : Order) : Order :=
  { order with direction := (last? (field order.column) orders).getD order.direction }

theorem exists_last? {order : Order} (member : order ∈ orders) :
    ∃ direction, last? (field order.column) orders = some direction := by
  have present : (orders.reverse.find? (names (field order.column))).isSome = true :=
    List.find?_isSome.mpr ⟨order, List.mem_reverse.mpr member, beq_self_eq_true _⟩
  obtain ⟨last, found⟩ := Option.isSome_iff_exists.mp present
  exact ⟨last.direction, by rw [last?, first?, found]; rfl⟩

theorem get?_map_sortField (name : String) (orders : List Order) :
    Document.get? name (orders.map sortField) =
      (first? name orders).map fun direction => .int32 direction.native := by
  induction orders with
  | nil => rfl
  | cons order rest hypothesis =>
    by_cases same : field order.column = name
    · simp [Document.get?, sortField, first?, names, same]
    · simp only [List.map_cons, Document.get?, sortField, if_neg same, first?, List.find?_cons, names,
        beq_eq_false_iff_ne.mpr same]
      exact hypothesis

/-- Entries turned into the last direction of their field leave it the last one. -/
theorem last?_map_settled (name : String) (orders : List Order) :
    last? name (orders.map (settled orders)) = last? name orders := by
  have columns : names name ∘ settled orders = names name := rfl
  rw [last?, first?, ← List.map_reverse, List.find?_map, columns]
  cases found : orders.reverse.find? (names name) with
  | none => rw [last?, first?, found]; rfl
  | some order =>
    have accepted : names name order = true := List.find?_some found
    have named : field order.column = name := eq_of_beq accepted
    have last : last? name orders = some order.direction := by rw [last?, first?, found]; rfl
    simp [settled, named, last]

/-- **Entries give the same sort document in the direction in which their field is last asked for.** -/
theorem ofFields_settled (orders : List Order) :
    Document.ofFields ((orders.map (settled orders)).map sortField) =
      Document.ofFields (orders.map sortField) := by
  have columns : Document.keys ((orders.map (settled orders)).map sortField) =
      Document.keys (orders.map sortField) := by
    simp only [Document.keys, List.map_map]
    rfl
  have latest (key : String) (list : List Order) :
      Document.get? key (list.map sortField).reverse =
        (last? key list).map fun direction => .int32 direction.native := by
    rw [← List.map_reverse, get?_map_sortField]
    rfl
  have blank : (Document.keys []).Nodup := List.nodup_nil
  refine Document.eq_of_get? (Document.nodup_keys_extend blank _) ?_ fun key => ?_
  · rw [Document.ofFields, Document.ofFields, Document.keys_extend_eq_foldl, columns,
      ← Document.keys_extend_eq_foldl]
  · rw [Document.ofFields, Document.ofFields, Document.get?_extend_reverse,
      Document.get?_extend_reverse, latest, latest, last?_map_settled]

theorem areConsistent_settled (orders : List Order) : areConsistent (orders.map (settled orders)) := by
  intro former first latter second same
  obtain ⟨order, member, rfl⟩ := List.mem_map.mp first
  obtain ⟨other, among, rfl⟩ := List.mem_map.mp second
  have columns : field order.column = field other.column := same
  obtain ⟨direction, last⟩ := exists_last? member
  have lastOther : last? (field other.column) orders = some direction := columns ▸ last
  simp only [settled, last, lastOther, Option.getD_some]

/-- **A sort document compares by the entries, each in the direction in which its field is last asked
for.** -/
theorem documentOrder_sort (orders : List Order) (left right : Document) :
    documentOrder ((sort orders).getD []) left right =
      compareAll sortOrder (orders.map (settled orders)) left right := by
  rw [← documentOrder_ofFields (areConsistent_settled orders), ofFields_settled]
  cases orders with
  | nil => rfl
  | cons order rest => rfl

/-! ### The entry that decides -/

section Deciding

variable {fields : Option Value → Option Value → Ordering} {left right : Document} {order : Order}

/-- Whether two documents differ in the field of an order. -/
def differs (fields : Option Value → Option Value → Ordering) (left right : Document) (order : Order) :
    Bool :=
  along (Predicate.fieldOf order.column) fields left right != .eq

theorem compare_of_not_differs (same : differs fields left right order = false) :
    order.compare fields left right = .eq := by
  have equal : along (Predicate.fieldOf order.column) fields left right = .eq := by
    simpa [differs] using same
  rw [compare, equal]
  cases order.direction <;> rfl

theorem compare_of_differs (apart : differs fields left right order = true) :
    order.compare fields left right ≠ .eq := by
  have unequal : along (Predicate.fieldOf order.column) fields left right ≠ .eq := by
    simpa [differs] using apart
  rw [compare]
  cases order.direction with
  | ascending => exact unequal
  | descending => simpa using unequal

/-- **A list of orders is decided by the first entry whose fields differ.** -/
theorem compareAll_eq_find? (fields : Option Value → Option Value → Ordering) (orders : List Order)
    (left right : Document) :
    compareAll fields orders left right =
      (orders.find? (differs fields left right)).elim .eq fun order =>
        order.compare fields left right := by
  induction orders with
  | nil => rfl
  | cons order rest hypothesis =>
    rw [compareAll, hypothesis]
    by_cases apart : differs fields left right order = true
    · rw [List.find?_cons_of_pos apart]
      have decided := compare_of_differs apart
      cases compared : order.compare fields left right with
      | lt => simpa using compared.symm
      | eq => exact absurd compared decided
      | gt => simpa using compared.symm
    · rw [List.find?_cons_of_neg apart, compare_of_not_differs (Bool.not_eq_true _ ▸ apart)]
      rfl

/-- The entry that decides asks for its field first. -/
theorem first?_of_find? (found : orders.find? (differs fields left right) = some order) :
    first? (field order.column) orders = some order.direction := by
  obtain ⟨apart, before, behind, rfl, agree⟩ := List.find?_eq_some_iff_append.mp found
  have unnamed : before.find? (names (field order.column)) = none := by
    refine List.find?_eq_none.mpr fun other member named => ?_
    have columns : field other.column = field order.column := eq_of_beq named
    have alike : differs fields left right other = differs fields left right order := by
      show (fields (Document.atPath? (field other.column) left)
        (Document.atPath? (field other.column) right) != .eq) = _
      rw [columns]
      rfl
    simpa [alike, apart] using agree other member
  have own : names (field order.column) order = true := beq_self_eq_true _
  rw [first?, List.find?_append, unnamed, Option.none_or, List.find?_cons_of_pos own]
  rfl

/-- Turning entries leaves the one that decides where it is. -/
theorem find?_map_settled (fields : Option Value → Option Value → Ordering) (orders : List Order)
    (left right : Document) :
    (orders.map (settled orders)).find? (differs fields left right) =
      (orders.find? (differs fields left right)).map (settled orders) :=
  List.find?_map

theorem swap_ne_self {order : Ordering} (unequal : order ≠ .eq) : order.swap ≠ order := by
  cases order with
  | eq => exact absurd rfl unequal
  | lt => exact nofun
  | gt => exact nofun

/-- Orders of one field that find the same difference have one direction. -/
theorem direction_eq_of_compare {former latter : Order} (columns : former.column = latter.column)
    (apart : differs fields left right former = true)
    (agree : former.compare fields left right = latter.compare fields left right) :
    former.direction = latter.direction := by
  obtain ⟨column, direction⟩ := former
  obtain ⟨_, other⟩ := latter
  obtain rfl := columns
  have unequal : along (Predicate.fieldOf column) fields left right ≠ .eq := by
    simpa [differs] using apart
  cases direction with
  | ascending =>
    cases other with
    | ascending => rfl
    | descending => exact absurd agree.symm (swap_ne_self unequal)
  | descending =>
    cases other with
    | ascending => exact absurd agree (swap_ne_self unequal)
    | descending => rfl

end Deciding

end Order

/-! ### Documents that differ in one field -/

namespace Document

/-- The document in which a list of keys leads to a value, and that holds nothing else. -/
def reaching : List String → Value → Document
  | [], _ => []
  | [key], value => [(key, value)]
  | key :: rest, value => [(key, .document (reaching rest value))]

theorem atSegments?_reaching {segments : List String} (present : segments ≠ []) (value : Value) :
    atSegments? segments (reaching segments value) = some value := by
  induction segments with
  | nil => exact absurd rfl present
  | cons key rest hypothesis =>
    cases rest with
    | nil => simp [reaching, atSegments?, get?]
    | cons next others => simpa [reaching, atSegments?, get?] using hypothesis (List.cons_ne_nil _ _)

theorem atSegments?_nil (segments : List String) : atSegments? segments [] = none := by
  cases segments with
  | nil => rfl
  | cons key rest => cases rest <;> rfl

/-- Such documents differ nowhere else: another path leads to nothing in them, or to documents, which
are in no order. -/
theorem sortOrder_reaching {segments others : List String} (apart : segments ≠ others)
    (former latter : Int32) :
    sortOrder (atSegments? others (reaching segments (.int32 former)))
      (atSegments? others (reaching segments (.int32 latter))) = .eq := by
  induction segments generalizing others with
  | nil =>
    rw [reaching, reaching, atSegments?_nil]
    rfl
  | cons key rest hypothesis =>
    cases others with
    | nil => rfl
    | cons head tail =>
      by_cases same : key = head
      · subst same
        have behind : rest ≠ tail := fun equal => apart (congrArg (key :: ·) equal)
        cases rest with
        | nil =>
          cases tail with
          | nil => exact absurd rfl behind
          | cons next more =>
            simp only [reaching, atSegments?, get?, if_true]
            rfl
        | cons next more =>
          cases tail with
          | nil =>
            simp only [reaching, atSegments?, get?, if_true]
            rfl
          | cons second others => simpa [reaching, atSegments?, get?] using hypothesis behind
      · have absent (value : Value) :
            atSegments? (head :: tail) (reaching (key :: rest) value) = none := by
          cases rest <;> cases tail <;> simp [reaching, atSegments?, get?, same]
        rw [absent, absent]
        rfl

end Document

/-! ### `ORDER BY` -/

namespace Sql

/-- The column and the direction of an item of an `ORDER BY`, which is ascending by default. -/
def orderTerm (item : List Lexeme) : List Lexeme × Direction :=
  match item.getLast? with
  | some (.other text) =>
    if text = Direction.descending.sql.toList then (item.dropLast, .descending)
    else if text = Direction.ascending.sql.toList then (item.dropLast, .ascending)
    else (item, .ascending)
  | _ => (item, .ascending)

/-- **The terms of an `ORDER BY`**: what stands between commas behind its two words. -/
def orderTerms (lexemes : List Lexeme) : List (List Lexeme × Direction) :=
  match (parts lexemes).find? (·.1 = .orders) with
  | some (_, _ :: list) => (list.splitOnP Lexeme.isComma).map orderTerm
  | _ => []

/-- How rows compare by the terms of an `ORDER BY`, the first of them first, given what a row holds in a
column and how values compare. -/
def termsOrder {Row : Type} (cell : List Lexeme → Row → Option Value)
    (values : Option Value → Option Value → Ordering) :
    List (List Lexeme × Direction) → Row → Row → Ordering
  | [], _, _ => .eq
  | (column, direction) :: rest, left, right =>
    let order := values (cell column left) (cell column right)
    (match direction with
      | .ascending => order
      | .descending => order.swap).then (termsOrder cell values rest left right)

section OrderBy

variable {scope : ColumnScope} {orders : List Order}

theorem splitOnP_orders (scope : ColumnScope) (present : orders ≠ []) :
    (commas (orders.map fun order =>
        pathLexemes (scope.path order.column) ++ [word order.direction.sql])).splitOnP Lexeme.isComma =
      orders.map fun order => pathLexemes (scope.path order.column) ++ [word order.direction.sql] := by
  refine splitOnP_commas (List.map_eq_nil_iff.not.mpr present) fun item listed lexeme inside => ?_
  obtain ⟨other, _, rfl⟩ := List.mem_map.mp listed
  rcases List.mem_append.mp inside with inPath | last
  · exact isComma_path lexeme inPath
  · obtain rfl := List.mem_singleton.mp last
    rfl

theorem orderTerm_append (column : List Lexeme) (direction : Direction) :
    orderTerm (column ++ [word direction.sql]) = (column, direction) := by
  rw [orderTerm, List.getLast?_concat, List.dropLast_concat]
  cases direction <;> rfl

/-- **An `ORDER BY` is read as the entries of its list**, in their order and each in its direction. -/
theorem orderTerms_orderText (scope : ColumnScope) (orders : List Order) :
    orderTerms (Lexeme.lexemesOf scope.dialect.quoteMark (orderText scope orders)) =
      orders.map fun order => (pathLexemes (scope.path order.column), order.direction) := by
  have plain : ∀ part ∈ orderParts scope orders, IsPlain part.2 := by
    intro part member
    refine isPlain_selectParts scope [] "" { Query.unbound with orders := orders } isPlain_nil part ?_
    simp [selectParts, member]
  have cuts := cut_gathered plain
  rw [orderTerms, (stands_orderText scope orders).reads.lexemes, parts, cuts]
  cases orders with
  | nil => rfl
  | cons order rest =>
    show ((commas ((order :: rest).map _)).splitOnP Lexeme.isComma).map orderTerm = _
    rw [splitOnP_orders scope (List.cons_ne_nil order rest), List.map_map]
    exact List.map_congr_left fun other _ => orderTerm_append _ other.direction

/-- **Rows compare by an `ORDER BY` as documents do by its list**, where they hold in the columns what
the documents hold in the fields. -/
theorem termsOrder_orderText {Row : Type} {cell : List Lexeme → Row → Option Value}
    {reading : Row → Document}
    (values : Option Value → Option Value → Ordering)
    (holds : ∀ order ∈ orders, ∀ row, cell (pathLexemes (scope.path order.column)) row =
      Predicate.fieldOf order.column (reading row)) (left right : Row) :
    termsOrder cell values
        (orderTerms (Lexeme.lexemesOf scope.dialect.quoteMark (orderText scope orders))) left right =
      Order.compareAll values orders (reading left) (reading right) := by
  rw [orderTerms_orderText]
  induction orders with
  | nil => rfl
  | cons order rest hypothesis =>
    have own := holds order List.mem_cons_self
    have later := hypothesis fun other member => holds other (List.mem_cons_of_mem order member)
    rw [List.map_cons, Order.compareAll, ← later, Order.compare, along, ← own, ← own]
    rfl

end OrderBy

end Sql

/-! ### The sort document and the list -/

section Sorts

variable {orders : List Order} {left right : Document}

/-- A field that is first asked for as it is last leaves the list what its sort document is. -/
theorem documentOrder_sort_of_agree (agree : ∀ name, Order.first? name orders = Order.last? name orders)
    (left right : Document) :
    documentOrder ((sort orders).getD []) left right =
      Order.compareAll sortOrder orders left right := by
  rw [Order.documentOrder_sort, Order.compareAll_eq_find?, Order.compareAll_eq_find?,
    Order.find?_map_settled]
  cases found : orders.find? (Order.differs sortOrder left right) with
  | none => rfl
  | some order =>
    have last := (agree (field order.column)).symm.trans (Order.first?_of_find? found)
    have unturned : Order.settled orders order = order := by rw [Order.settled, last]; rfl
    rw [Option.map_some, unturned]

/-- Documents that hold nothing but different numbers in one field are told apart by its entries. -/
theorem differs_reaching (name : String) :
    Order.differs sortOrder (Document.reaching (Text.segmentsOf '.' name) (.int32 1))
      (Document.reaching (Text.segmentsOf '.' name) (.int32 2)) = Order.names name := by
  funext order
  show (sortOrder (Document.atSegments? (Text.segmentsOf '.' (field order.column)) _)
    (Document.atSegments? (Text.segmentsOf '.' (field order.column)) _) != .eq) = _
  by_cases same : field order.column = name
  · have present := Text.segmentsOf_ne_nil '.' name
    rw [same, Document.atSegments?_reaching present, Document.atSegments?_reaching present, Order.names,
      same, beq_self_eq_true]
    rfl
  · have apart : Text.segmentsOf '.' name ≠ Text.segmentsOf '.' (field order.column) :=
      fun segments => same (Text.eq_of_segmentsOf segments).symm
    rw [Document.sortOrder_reaching apart, Order.names, beq_eq_false_iff_ne.mpr same]
    rfl

/-- A sort document that means what its list does asks for each field first as it does last. -/
theorem first?_eq_last?_of_documentOrder
    (agree : ∀ left right, documentOrder ((sort orders).getD []) left right =
      Order.compareAll sortOrder orders left right) (name : String) :
    Order.first? name orders = Order.last? name orders := by
  cases found : orders.find? (Order.names name) with
  | none =>
    have unnamed : orders.reverse.find? (Order.names name) = none := by simpa using found
    rw [Order.last?, Order.first?, Order.first?, found, unnamed]
  | some order =>
    have accepted : Order.names name order = true := List.find?_some found
    have named : field order.column = name := eq_of_beq accepted
    obtain ⟨direction, last⟩ := Order.exists_last? (List.mem_of_find?_eq_some found)
    -- Of two documents that differ in this field only, the entries of the field decide on both sides.
    have compared := agree (Document.reaching (Text.segmentsOf '.' name) (.int32 1))
      (Document.reaching (Text.segmentsOf '.' name) (.int32 2))
    rw [Order.documentOrder_sort, Order.compareAll_eq_find?, Order.compareAll_eq_find?,
      Order.find?_map_settled, differs_reaching, found] at compared
    have apart := (congrFun (differs_reaching name) (Order.settled orders order)).trans accepted
    have same : (Order.settled orders order).direction = order.direction :=
      Order.direction_eq_of_compare rfl apart compared
    rw [Order.settled, last] at same
    rw [Order.first?, found, ← named, last]
    exact congrArg some same.symm

/-- **A sort document means what its list of orders does exactly if no field is first asked for in another
direction than last.** It always compares by the entries in the directions in which their fields are last
asked for, whereas an `ORDER BY` of the list compares by the list itself. -/
theorem documentOrder_sort_iff (orders : List Order) :
    (∀ left right, documentOrder ((sort orders).getD []) left right =
      Order.compareAll sortOrder (orders.map (Order.settled orders)) left right) ∧
    ((∀ left right, documentOrder ((sort orders).getD []) left right =
        Order.compareAll sortOrder orders left right) ↔
      ∀ name, Order.first? name orders = Order.last? name orders) ∧
    ∀ (scope : Sql.ColumnScope) (Row : Type) (cell : List Sql.Lexeme → Row → Option Value)
      (reading : Row → Document) (values : Option Value → Option Value → Ordering),
      (∀ order ∈ orders, ∀ row, cell (pathLexemes (scope.path order.column)) row =
        Predicate.fieldOf order.column (reading row)) →
      ∀ left right,
        Sql.termsOrder cell values (Sql.orderTerms
            (Sql.Lexeme.lexemesOf scope.dialect.quoteMark (Sql.orderText scope orders))) left right =
          Order.compareAll values orders (reading left) (reading right) :=
  ⟨Order.documentOrder_sort orders, ⟨first?_eq_last?_of_documentOrder, documentOrder_sort_of_agree⟩,
    fun _ _ _ _ values holds => Sql.termsOrder_orderText values holds⟩

/-- A table of numbered ages, read by an `ORDER BY` that repeats one of its columns. -/
theorem documentOrder_sort_iff_ages :
    let orders : List Order := [⟨"age", .ascending⟩, ⟨"id", .descending⟩, ⟨"age", .ascending⟩]
    let cell : List Sql.Lexeme → Int32 × Int32 → Option Value := fun column row =>
      match column with
      | [.name name] => Document.get? name [("id", .int32 row.1), ("age", .int32 row.2)]
      | _ => none
    let reading : Int32 × Int32 → Document := fun row => [("_id", .int32 row.1), ("age", .int32 row.2)]
    (∀ order ∈ orders, ∀ row, cell (pathLexemes (Sql.ColumnScope.path ⟨.postgres, "people", false⟩
        order.column)) row = Predicate.fieldOf order.column (reading row)) ∧
      Sql.termsOrder cell sortOrder (Sql.orderTerms (Sql.Lexeme.lexemesOf '"'
          (Sql.orderText ⟨.postgres, "people", false⟩ orders))) (7, 30) (8, 30) =
        Order.compareAll sortOrder orders (reading (7, 30)) (reading (8, 30)) ∧
      Order.compareAll sortOrder orders (reading (7, 30)) (reading (8, 30)) = .gt := by
  intro orders cell reading
  have age (row : Int32 × Int32) : cell (pathLexemes (Sql.ColumnScope.path ⟨.postgres, "people", false⟩
      "age")) row = Predicate.fieldOf "age" (reading row) := rfl
  have id (row : Int32 × Int32) : cell (pathLexemes (Sql.ColumnScope.path ⟨.postgres, "people", false⟩
      "id")) row = Predicate.fieldOf "id" (reading row) := rfl
  have holds : ∀ order ∈ orders, ∀ row, cell (pathLexemes (Sql.ColumnScope.path
      ⟨.postgres, "people", false⟩ order.column)) row = Predicate.fieldOf order.column (reading row) := by
    intro order member row
    rcases List.mem_cons.mp member with rfl | member
    · exact age row
    · rcases List.mem_cons.mp member with rfl | member
      · exact id row
      · obtain rfl := List.mem_singleton.mp member
        exact age row
  have same := (documentOrder_sort_iff orders).2.2 _ _ cell reading sortOrder holds (7, 30) (8, 30)
  exact ⟨holds, same, rfl⟩

/-- A field that is asked for in both directions is sorted by its last entry, where its first one
decides. -/
theorem documentOrder_sort_turned :
    let orders : List Order := [⟨"age", .ascending⟩, ⟨"age", .descending⟩]
    documentOrder ((sort orders).getD []) [("age", .int32 1)] [("age", .int32 2)] = .gt ∧
      Order.compareAll sortOrder orders [("age", .int32 1)] [("age", .int32 2)] = .lt :=
  ⟨rfl, rfl⟩

end Sorts

end Polystore
