/-
**Joins as relations between two lists of rows.**

A row of a join has an `Origin`: a base row and a joined row, or one of them alone. `Origin.Belongs` says
which origins belong to a join of a kind, `Origin.Precedes` in which order.

* `origins`: the origins that belong to a join, in their order;
* `joinRows_eq_map_origins`: the rows of a join are those of its origins;
* `joinRows_relational`: so a join is the relational one of its kind.
-/

import Mathlib.Data.List.FinRange
import Polystore.Proofs.Rows.Origin

namespace Polystore

theorem JoinKind.keepsUnmatchedBase_iff {kind : JoinKind} :
    kind.keepsUnmatchedBase = true ↔ kind = .left ∨ kind = .full := by
  cases kind <;> decide

theorem JoinKind.keepsUnmatchedJoined_iff {kind : JoinKind} :
    kind.keepsUnmatchedJoined = true ↔ kind = .right ∨ kind = .full := by
  cases kind <;> decide

namespace Native

/-- **Whether the key of a joined row is that of a base row.** Both are there, and the one of the base row
is neither null nor undefined. -/
def Matches (join : Join) (row other : Document) : Prop :=
  ∃ left right, Document.lookup? join.localKey row = some left ∧ left.isNullish = false ∧
    Document.get? join.foreignKey other = some right ∧ sameKey left right = true

theorem isMatch_iff {join : Join} {row other : Document} :
    isMatch join row other = true ↔ Matches join row other := by
  constructor
  · intro matched
    unfold isMatch at matched
    split at matched
    · rename_i left right keyed found
      obtain ⟨looked, present⟩ := Option.filter_eq_some_iff.mp keyed
      exact ⟨left, right, looked, by simpa using present, found, matched⟩
    · cases matched
  · rintro ⟨left, right, looked, present, found, same⟩
    have keyed : localKey? join row = some left :=
      Option.filter_eq_some_iff.mpr ⟨looked, by rw [present]; rfl⟩
    rw [isMatch, keyed, found]
    exact same

/-- Where a row of a join comes from, by the places of base rows and of joined rows. -/
inductive Origin (bases partners : Nat) where
  | both (base : Fin bases) (partner : Fin partners)
  | baseOnly (base : Fin bases)
  | partnerOnly (partner : Fin partners)

namespace Origin

/-- The place of the base row. -/
def base? {bases partners : Nat} : Origin bases partners → Option (Fin bases)
  | both base _ | baseOnly base => some base
  | partnerOnly _ => none

/-- The place of the joined row. -/
def partner? {bases partners : Nat} : Origin bases partners → Option (Fin partners)
  | both _ partner | partnerOnly partner => some partner
  | baseOnly _ => none

/-- **The order of the rows of a join**: base row by base row, for each of them joined row by joined row,
and joined rows without a base row behind all of them. -/
def Precedes {bases partners : Nat} : Origin bases partners → Origin bases partners → Prop
  | both base partner, both other next => base < other ∨ base = other ∧ partner < next
  | both base _, baseOnly other
  | baseOnly base, both other _
  | baseOnly base, baseOnly other => base < other
  | partnerOnly partner, partnerOnly next => partner < next
  | partnerOnly _, _ => False
  | _, partnerOnly _ => True

section Rows

variable (join : Join) (rows joined : List Document)

/-- The row of an origin. -/
def row : Origin rows.length joined.length → Document
  | both base partner => Document.insert join.target (.document (joined.get partner)) (rows.get base)
  | baseOnly base => Document.insert join.target .null (rows.get base)
  | partnerOnly partner => [(join.target, .document (joined.get partner))]

/-- **Which origins belong to a join**: pairs of rows whose keys match, or all pairs of a cross join; base
rows that match nothing in left and full joins, joined rows that match nothing in right and full ones. -/
def Belongs : Origin rows.length joined.length → Prop
  | both base partner => join.kind = .cross ∨ Matches join (rows.get base) (joined.get partner)
  | baseOnly base => (join.kind = .left ∨ join.kind = .full) ∧
      ∀ partner, ¬ Matches join (rows.get base) (joined.get partner)
  | partnerOnly partner => (join.kind = .right ∨ join.kind = .full) ∧
      ∀ base, ¬ Matches join (rows.get base) (joined.get partner)

end Rows

/-- No row comes before itself. -/
theorem ne_of_precedes {bases partners : Nat} {first second : Origin bases partners}
    (precedes : first.Precedes second) : first ≠ second := by
  rintro rfl
  cases first with
  | both base partner => exact precedes.elim (lt_irrefl base) fun later => lt_irrefl partner later.2
  | baseOnly base => exact lt_irrefl base precedes
  | partnerOnly partner => exact lt_irrefl partner precedes

/-- Rows of different base rows come in the order of these. -/
theorem precedes_of_lt {bases partners : Nat} {first second : Origin bases partners}
    {base other : Fin bases} (former : first.base? = some base) (latter : second.base? = some other)
    (less : base < other) : first.Precedes second := by
  cases first <;> cases second <;> cases former <;> cases latter
  · exact .inl less
  all_goals exact less

/-- Rows without a base row come behind those with one. -/
theorem precedes_of_none {bases partners : Nat} {first second : Origin bases partners} {base : Fin bases}
    (former : first.base? = some base) (latter : second.base? = none) : first.Precedes second := by
  cases first <;> cases second <;> cases former <;> cases latter <;> trivial

end Origin

section Origins

variable (join : Join) (rows joined : List Document)

/-- Whether two rows make a row of a join. -/
def makesRow (row other : Document) : Bool := join.kind = .cross || isMatch join row other

/-- The joined rows with which a base row makes a row. -/
def partnersOf (base : Fin rows.length) : List (Fin joined.length) :=
  (List.finRange joined.length).filter fun partner => makesRow join (rows.get base) (joined.get partner)

/-- The origins with a base row. -/
def originsOf (base : Fin rows.length) : List (Origin rows.length joined.length) :=
  (partnersOf join rows joined base).map (.both base) ++
    if join.kind.keepsUnmatchedBase && (partnersOf join rows joined base).isEmpty then [.baseOnly base]
    else []

/-- The origins without a base row. -/
def strayOrigins : List (Origin rows.length joined.length) :=
  if join.kind.keepsUnmatchedJoined then
    ((List.finRange joined.length).filter fun partner =>
      !rows.any fun row => isMatch join row (joined.get partner)).map .partnerOnly
  else []

/-- **The origins of the rows of a join**, in order. -/
def origins : List (Origin rows.length joined.length) :=
  (List.finRange rows.length).flatMap (originsOf join rows joined) ++ strayOrigins join rows joined

end Origins

section Rows

variable {join : Join} {rows joined : List Document}

theorem filter_eq_map_get (keeps : Document → Bool) (joined : List Document) :
    joined.filter keeps =
      ((List.finRange joined.length).filter fun place => keeps (joined.get place)).map joined.get := by
  conv_lhs => rw [← List.map_get_finRange joined, List.filter_map]
  rfl

/-- What a base row becomes, by the joined rows with which it makes a row. -/
theorem paired_eq (join : Join) (joined : List Document) (row : Document) :
    paired join joined row =
      if (joined.filter (makesRow join row)).isEmpty then
        if join.kind.keepsUnmatchedBase then [Document.insert join.target .null row] else []
      else (joined.filter (makesRow join row)).map (extended join row) := by
  unfold paired
  by_cases crossing : join.kind = .cross
  · have every : joined.filter (makesRow join row) = joined :=
      List.filter_eq_self.mpr fun other _ => by rw [makesRow, decide_eq_true crossing, Bool.true_or]
    rw [if_pos crossing, every, crossing]
    cases joined <;> rfl
  · have keyed : makesRow join row = isMatch join row := by
      funext other
      rw [makesRow, decide_eq_false crossing, Bool.false_or]
    rw [if_neg crossing, keyed]
    rfl

/-- The rows that a base row makes are those of its origins. -/
theorem paired_eq_map_originsOf (base : Fin rows.length) :
    paired join joined (rows.get base) =
      (originsOf join rows joined base).map (Origin.row join rows joined) := by
  have partners : joined.filter (makesRow join (rows.get base)) =
      (partnersOf join rows joined base).map joined.get := filter_eq_map_get _ joined
  rw [paired_eq, partners, List.isEmpty_map, originsOf, List.map_append, List.map_map, List.map_map]
  cases lonely : (partnersOf join rows joined base).isEmpty with
  | false =>
    rw [Bool.and_false, if_neg Bool.false_ne_true, if_neg Bool.false_ne_true]
    exact (List.append_nil _).symm
  | true =>
    rw [Bool.and_true, if_pos rfl, List.isEmpty_iff.mp lonely]
    cases join.kind.keepsUnmatchedBase <;> rfl

theorem unpaired_eq_map_strayOrigins :
    unpaired join rows joined = (strayOrigins join rows joined).map (Origin.row join rows joined) := by
  unfold unpaired strayOrigins
  split
  · rw [unmatchedJoined, filter_eq_map_get, List.map_map, List.map_map]
    rfl
  · rfl

/-- **The rows of a join are those of its origins.** -/
theorem joinRows_eq_map_origins (join : Join) (rows joined : List Document) :
    joinRows join rows joined = (origins join rows joined).map (Origin.row join rows joined) := by
  have based : rows.flatMap (paired join joined) =
      (List.finRange rows.length).flatMap fun base => paired join joined (rows.get base) := by
    conv_lhs => rw [← List.map_get_finRange rows, List.flatMap_map]
  rw [joinRows_eq, based, origins, List.map_append, List.map_flatMap, unpaired_eq_map_strayOrigins]
  simp only [paired_eq_map_originsOf]

end Rows

/-! ### Which origins there are, and in which order -/

section Order

variable {join : Join} {rows joined : List Document}

theorem mem_partnersOf {base : Fin rows.length} {partner : Fin joined.length} :
    partner ∈ partnersOf join rows joined base ↔
      join.kind = .cross ∨ Matches join (rows.get base) (joined.get partner) := by
  rw [partnersOf, List.mem_filter, and_iff_right (List.mem_finRange partner), makesRow, Bool.or_eq_true,
    decide_eq_true_eq, isMatch_iff]

/-- A base row that is kept stands alone if it matches nothing. -/
theorem isEmpty_partnersOf {base : Fin rows.length} (kept : join.kind = .left ∨ join.kind = .full) :
    (partnersOf join rows joined base).isEmpty = true ↔
      ∀ partner, ¬ Matches join (rows.get base) (joined.get partner) := by
  have keyed : join.kind ≠ .cross := by
    rcases kept with kind | kind <;> rw [kind] <;> decide
  rw [List.isEmpty_iff, List.eq_nil_iff_forall_not_mem]
  simp only [mem_partnersOf, or_iff_right keyed]

/-- The origins of a base row are those with it that belong to the join. -/
theorem mem_originsOf {base : Fin rows.length} {origin : Origin rows.length joined.length} :
    origin ∈ originsOf join rows joined base ↔
      Origin.Belongs join rows joined origin ∧ origin.base? = some base := by
  rw [originsOf, List.mem_append, List.mem_map, List.mem_ite_nil_right, List.mem_singleton,
    Bool.and_eq_true, JoinKind.keepsUnmatchedBase_iff]
  cases origin with
  | both other partner =>
    rw [Origin.Belongs, ← mem_partnersOf, Origin.base?, Option.some.injEq]
    constructor
    · rintro (⟨_, member, same⟩ | ⟨-, same⟩)
      · cases same
        exact ⟨member, rfl⟩
      · cases same
    · rintro ⟨member, rfl⟩
      exact .inl ⟨partner, member, rfl⟩
  | baseOnly other =>
    rw [Origin.Belongs, Origin.base?, Option.some.injEq]
    constructor
    · rintro (⟨_, -, same⟩ | ⟨⟨kept, lonely⟩, same⟩)
      · cases same
      · cases same
        exact ⟨⟨kept, (isEmpty_partnersOf kept).mp lonely⟩, rfl⟩
    · rintro ⟨⟨kept, lonely⟩, rfl⟩
      exact .inr ⟨⟨kept, (isEmpty_partnersOf kept).mpr lonely⟩, rfl⟩
  | partnerOnly partner =>
    refine iff_of_false ?_ fun both => nomatch both.2
    rintro (⟨_, -, same⟩ | ⟨-, same⟩) <;> cases same

/-- The stray origins are those without a base row that belong to the join. -/
theorem mem_strayOrigins {origin : Origin rows.length joined.length} :
    origin ∈ strayOrigins join rows joined ↔
      Origin.Belongs join rows joined origin ∧ origin.base? = none := by
  have unmatched (partner : Fin joined.length) :
      (!rows.any fun row => isMatch join row (joined.get partner)) = true ↔
        ∀ base, ¬ Matches join (rows.get base) (joined.get partner) := by
    rw [Bool.not_eq_true', List.any_eq_false, List.forall_mem_iff_get]
    simp only [isMatch_iff]
  rw [strayOrigins, List.mem_ite_nil_right, List.mem_map, JoinKind.keepsUnmatchedJoined_iff]
  simp only [List.mem_filter, List.mem_finRange, true_and, unmatched]
  cases origin with
  | partnerOnly partner =>
    rw [Origin.Belongs, Origin.base?, and_iff_left rfl]
    refine and_congr_right fun _ => ⟨?_, fun lonely => ⟨partner, lonely, rfl⟩⟩
    rintro ⟨_, lonely, same⟩
    cases same
    exact lonely
  | both | baseOnly =>
    refine iff_of_false ?_ fun both => nomatch both.2
    rintro ⟨-, _, -, same⟩
    cases same

/-- **The origins are those that belong to the join.** -/
theorem mem_origins {origin : Origin rows.length joined.length} :
    origin ∈ origins join rows joined ↔ Origin.Belongs join rows joined origin := by
  rw [origins, List.mem_append, List.mem_flatMap, mem_strayOrigins]
  simp only [List.mem_finRange, true_and, mem_originsOf]
  cases origin.base? with
  | none => simp
  | some base => simp

/-- Places that are picked from a list of all come in ascending order. -/
theorem pairwise_filter_finRange {count : Nat} (keeps : Fin count → Bool) :
    ((List.finRange count).filter keeps).Pairwise (· < ·) :=
  (List.pairwise_lt_finRange count).filter keeps

theorem pairwise_originsOf (base : Fin rows.length) :
    (originsOf join rows joined base).Pairwise Origin.Precedes := by
  rw [originsOf, List.pairwise_append, List.pairwise_map]
  refine ⟨(pairwise_filter_finRange _).imp fun less => .inr ⟨rfl, less⟩, ?_, ?_⟩
  · split
    · exact List.pairwise_singleton _ _
    · exact .nil
  · intro first former second latter
    rw [List.mem_ite_nil_right, Bool.and_eq_true] at latter
    rw [List.isEmpty_iff.mp latter.1.2] at former
    cases former

theorem pairwise_strayOrigins : (strayOrigins join rows joined).Pairwise Origin.Precedes := by
  unfold strayOrigins
  split
  · exact List.pairwise_map.mpr (pairwise_filter_finRange _)
  · exact .nil

/-- **The origins stand in the order of the join.** -/
theorem pairwise_origins : (origins join rows joined).Pairwise Origin.Precedes := by
  rw [origins, List.pairwise_append, List.pairwise_flatMap]
  refine ⟨⟨fun base _ => pairwise_originsOf base, ?_⟩, pairwise_strayOrigins, ?_⟩
  · refine (List.pairwise_lt_finRange _).imp fun less first former second latter => ?_
    exact Origin.precedes_of_lt (mem_originsOf.mp former).2 (mem_originsOf.mp latter).2 less
  · intro first former second latter
    obtain ⟨base, -, inside⟩ := List.mem_flatMap.mp former
    exact Origin.precedes_of_none (mem_originsOf.mp inside).2 (mem_strayOrigins.mp latter).2

end Order

/-! ### The rows of joins of different kinds -/

section Kinds

variable {join : Join} {rows joined : List Document}

/-- Every joined row has an origin where the join keeps those that match nothing. -/
theorem exists_belongs_partner (rows : List Document) (kept : join.kind = .right ∨ join.kind = .full)
    (partner : Fin joined.length) :
    ∃ origin, Origin.Belongs join rows joined origin ∧ origin.partner? = some partner := by
  by_cases matched : ∃ base, Matches join (rows.get base) (joined.get partner)
  · obtain ⟨base, matching⟩ := matched
    exact ⟨.both base partner, .inr matching, rfl⟩
  · exact ⟨.partnerOnly partner, ⟨kept, fun base matching => matched ⟨base, matching⟩⟩, rfl⟩

/-- Every base row has an origin where the join keeps those that match nothing. -/
theorem exists_belongs_base (joined : List Document) (kept : join.kind = .left ∨ join.kind = .full)
    (base : Fin rows.length) :
    ∃ origin, Origin.Belongs join rows joined origin ∧ origin.base? = some base := by
  by_cases matched : ∃ partner, Matches join (rows.get base) (joined.get partner)
  · obtain ⟨partner, matching⟩ := matched
    exact ⟨.both base partner, .inr matching, rfl⟩
  · exact ⟨.baseOnly base, ⟨kept, fun partner matching => matched ⟨partner, matching⟩⟩, rfl⟩

/-- The join with another kind. -/
abbrev ofKind (join : Join) (kind : JoinKind) : Join := { join with kind }

/-- **A full and an inner join have the rows of a left and a right one.** -/
theorem perm_joinRows_kinds (join : Join) (rows joined : List Document) :
    (joinRows (ofKind join .full) rows joined ++ joinRows (ofKind join .inner) rows joined).Perm
      (joinRows (ofKind join .left) rows joined ++ joinRows (ofKind join .right) rows joined) := by
  have inner : joinRows (ofKind join .inner) rows joined =
      rows.flatMap (joinRow (ofKind join .inner) joined) :=
    (joinRows_eq_flatMap (by simp) rows joined).trans (List.append_nil _)
  have left : joinRows (ofKind join .left) rows joined =
      rows.flatMap (joinRow (ofKind join .left) joined) :=
    (joinRows_eq_flatMap (by simp) rows joined).trans (List.append_nil _)
  have right : joinRows (ofKind join .right) rows joined =
      rows.flatMap (joinRow (ofKind join .inner) joined) ++ unpaired (ofKind join .right) rows joined :=
    joinRows_eq_flatMap (by simp) rows joined
  have full : joinRows (ofKind join .full) rows joined =
      rows.flatMap (joinRow (ofKind join .left) joined) ++ unpaired (ofKind join .right) rows joined :=
    joinRows_eq_flatMap (by simp) rows joined
  rw [inner, left, right, full, List.append_assoc]
  exact (List.perm_append_comm).append_left _

end Kinds

/-- **A join is the relational join of its kind.** Its rows are those of the origins that belong to it,
each once, in their order. So a join that keeps joined rows or base rows has each of them, and the
numbers of rows of the kinds go together. -/
theorem joinRows_relational (join : Join) (rows joined : List Document) :
    (∃ origins : List (Origin rows.length joined.length),
      joinRows join rows joined = origins.map (Origin.row join rows joined) ∧
      origins.Pairwise Origin.Precedes ∧ origins.Nodup ∧
      (∀ origin, origin ∈ origins ↔ Origin.Belongs join rows joined origin) ∧
      (join.kind = .right ∨ join.kind = .full →
        ∀ partner, ∃ origin ∈ origins, origin.partner? = some partner) ∧
      (join.kind = .left ∨ join.kind = .full →
        ∀ base, ∃ origin ∈ origins, origin.base? = some base)) ∧
    (joinRows (ofKind join .full) rows joined).length +
        (joinRows (ofKind join .inner) rows joined).length =
      (joinRows (ofKind join .left) rows joined).length +
        (joinRows (ofKind join .right) rows joined).length := by
  refine ⟨⟨origins join rows joined, joinRows_eq_map_origins join rows joined, pairwise_origins,
    pairwise_origins.imp Origin.ne_of_precedes, fun _ => mem_origins, fun kept partner => ?_,
    fun kept base => ?_⟩, ?_⟩
  · obtain ⟨origin, belongs, placed⟩ := exists_belongs_partner rows kept partner
    exact ⟨origin, mem_origins.mpr belongs, placed⟩
  · obtain ⟨origin, belongs, placed⟩ := exists_belongs_base joined kept base
    exact ⟨origin, mem_origins.mpr belongs, placed⟩
  · rw [← List.length_append, ← List.length_append]
    exact (perm_joinRows_kinds join rows joined).length_eq

end Native

end Polystore
