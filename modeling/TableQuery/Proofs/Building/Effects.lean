import TableQuery.Proofs.Emission.Gives
import TableQuery.Query.Build

/-!
# What operations mean

An operation means something or not by itself: that is settled by its name and arguments, the table
and the identity of the row (`Operation.Means`), whatever has been applied before.  Applying an
operation to a query without a terminal succeeds if the operation means something, and then adds
just that to the query (`Query.apply_eq_ok`).  If the operation means nothing, then the error is the
same for every query over the table without a terminal (`Query.apply_error`).
-/

namespace TableQuery

/-- What an operation adds to a query. -/
inductive Effect where
  | filter (e : Expr)
  | order (k : SortKey)
  | skip (n : Nat)
  | take (n : Nat)
  | select (columns : List Nat)
  | distinct
  | close (terminal : Terminal) (filter : Option Expr)

namespace Effect

/-- The filter that is added. -/
@[simp] def filter? : Effect → Option Expr
  | filter e => some e
  | close _ e => e
  | _ => none

/-- The sort key that is added. -/
@[simp] def key? : Effect → Option SortKey
  | order k => some k
  | _ => none

/-- The number of rows to leave out. -/
@[simp] def skip? : Effect → Option Nat
  | skip n => some n
  | _ => none

/-- The number of rows to read. -/
@[simp] def take? : Effect → Option Nat
  | take n => some n
  | _ => none

/-- The columns that are selected. -/
@[simp] def columns? : Effect → Option (List Nat)
  | select columns => some columns
  | _ => none

/-- Whether equal rows count once from now on. -/
@[simp] def isDistinct : Effect → Bool
  | distinct => true
  | _ => false

/-- The terminal that ends the query. -/
@[simp] def terminal? : Effect → Option Terminal
  | close terminal _ => some terminal
  | _ => none

end Effect

/-- An expression can filter the rows of a table: the columns of the own row that it reads exist,
and it is a truth value as far as its type is known. -/
structure Expr.Filters (t : Table) (s : SourceId) (e : Expr) : Prop where
  columns : ∀ ref ∈ e.columns, ref.source = s → (t.column? ref.column).isSome = true
  type : ∀ ty, e.inferType (Query.all t s).columnType = some ty → ty = .bool

/-- An expression is constant and stands for a number of rows. -/
structure Expr.Counts (e : Expr) (n : Nat) : Prop where
  const : e.isConst = true
  value : ∃ i : Int64, e.fold = .ok (.int i) ∧ i.toInt = n

/-- The names of operations that add a sort key, with the direction. -/
def sortNames : List (String × Bool) :=
  [("OrderBy", true), ("OrderByDescending", false), ("ThenBy", true), ("ThenByDescending", false)]

/-- What an operation on a query means, by the table of the query and the identity of its row. -/
inductive Operation.Means (t : Table) (s : SourceId) : Operation → Effect → Prop where
  | filter {e} : e.Filters t s → Means t s ⟨"Where", [e]⟩ (.filter e)
  | order {name ascending i} : (name, ascending) ∈ sortNames → (t.column? i).isSome = true →
    Means t s ⟨name, [.column ⟨s, i⟩]⟩ (.order ⟨i, ascending⟩)
  | skip {e n} : e.Counts n → Means t s ⟨"Skip", [e]⟩ (.skip n)
  | take {e n} : e.Counts n → Means t s ⟨"Take", [e]⟩ (.take n)
  | select {columns} : columns ≠ [] → (∀ i ∈ columns, (t.column? i).isSome = true) →
    Means t s ⟨"Select", columns.map fun i => .column ⟨s, i⟩⟩ (.select columns)
  | distinct : Means t s ⟨"Distinct", []⟩ .distinct
  | close {terminal} : terminal ∈ Terminal.closing →
    Means t s ⟨terminal.name, []⟩ (.close terminal none)
  | closeFilter {terminal e} : terminal ∈ Terminal.closing → e.Filters t s →
    Means t s ⟨terminal.name, [e]⟩ (.close terminal (some e))

section Methods

variable {name : String} {m : Method}

/-- What a method may be called. -/
lemma Method.ofName?_cases (h : Method.ofName? name = some m) :
    (name = "Where" ∧ m = .filter) ∨
      (∃ ascending, (name, ascending) ∈ sortNames ∧ m = .order ascending) ∨
      (name = "Skip" ∧ m = .skip) ∨ (name = "Take" ∧ m = .take) ∨
      (name = "Select" ∧ m = .select) ∨ (name = "Distinct" ∧ m = .distinct) ∨
      ∃ t ∈ Terminal.closing, name = t.name ∧ m = .close t := by
  obtain ⟨before, after, htable, -⟩ := List.lookup_eq_some_iff.mp h
  have hmem : (name, m) ∈ Method.table := by
    rw [htable]
    exact List.mem_append_right before List.mem_cons_self
  simp only [Method.table, List.mem_append, List.mem_cons, List.not_mem_nil, or_false,
    List.mem_map] at hmem
  obtain (hm | hm | hm | hm | hm | hm | hm | hm | hm) | ⟨t, ht, hm⟩ := hmem <;> cases hm
  · exact .inl ⟨rfl, rfl⟩
  · exact .inr (.inl ⟨true, by decide, rfl⟩)
  · exact .inr (.inl ⟨false, by decide, rfl⟩)
  · exact .inr (.inl ⟨true, by decide, rfl⟩)
  · exact .inr (.inl ⟨false, by decide, rfl⟩)
  · exact .inr (.inr (.inl ⟨rfl, rfl⟩))
  · exact .inr (.inr (.inr (.inl ⟨rfl, rfl⟩)))
  · exact .inr (.inr (.inr (.inr (.inl ⟨rfl, rfl⟩))))
  · exact .inr (.inr (.inr (.inr (.inr (.inl ⟨rfl, rfl⟩)))))
  · exact .inr (.inr (.inr (.inr (.inr (.inr ⟨t, ht, rfl, rfl⟩)))))

/-- A method is found by the names of the operations that add a sort key. -/
lemma Method.ofName?_sort {ascending : Bool} (h : (name, ascending) ∈ sortNames) :
    Method.ofName? name = some (.order ascending) := by
  simp only [sortNames, List.mem_cons, List.not_mem_nil, or_false] at h
  obtain h | h | h | h := h <;> cases h <;> rfl

/-- A method is found by the name of a terminal. -/
lemma Method.ofName?_closing {t : Terminal} (h : t ∈ Terminal.closing) :
    Method.ofName? t.name = some (.close t) := by
  revert t
  simp only [Terminal.closing, List.forall_mem_cons]
  exact ⟨rfl, rfl, rfl, rfl, rfl, rfl, rfl, rfl, rfl, fun _ h => nomatch h⟩

end Methods

section Checks

variable {q : Query}

/-- A column of a table is found if the table has it. -/
lemma Table.resolve_isSome {t : Table} {i : Nat} :
    (∃ c, t.resolve i = .ok c) ↔ (t.column? i).isSome = true := by
  unfold Table.resolve
  cases t.column? i <;> simp

/-- Columns pass the check if those of the own row exist. -/
lemma Query.checkColumns_eq_ok {refs : List ColumnRef} :
    q.checkColumns refs = .ok () ↔
      ∀ ref ∈ refs, ref.source = q.source → (q.table.column? ref.column).isSome = true := by
  induction refs with
  | nil => simp [checkColumns]
  | cons ref refs ih =>
    rw [checkColumns, List.forall_mem_cons, ← ih]
    split
    case isTrue hown =>
      rw [← Table.resolve_isSome]
      cases hc : q.table.resolve ref.column with
      | error e => simp [Bind.bind, Except.bind, hown]
      | ok c => simp [Bind.bind, Except.bind, hown]
    case isFalse hother => simp [hother]

/-- An expression passes the check if it can filter the rows. -/
lemma Query.checkFilter_eq_ok {method : String} {e : Expr} :
    q.checkFilter method e = .ok () ↔ e.Filters q.table q.source := by
  have htype : q.columnType = (Query.all q.table q.source).columnType := rfl
  unfold checkFilter
  constructor
  case mp =>
    intro h
    obtain ⟨⟨⟩, hcolumns, h⟩ := ok_of_bind h
    refine ⟨checkColumns_eq_ok.mp hcolumns, fun ty hty => ?_⟩
    rw [htype, hty] at h
    cases ty with
    | bool => rfl
    | _ => cases h
  case mpr =>
    rintro ⟨hcolumns, hbool⟩
    rw [checkColumns_eq_ok.mpr hcolumns, htype]
    cases hty : e.inferType (Query.all q.table q.source).columnType with
    | none => rfl
    | some ty =>
      cases hbool ty hty
      rfl

/-- An expression is a column of the own row if it is a plain one that exists. -/
lemma Query.ownColumn_eq_ok {role : ColumnRole} {e : Expr} {i : Nat} :
    q.ownColumn role e = .ok i ↔
      e = .column ⟨q.source, i⟩ ∧ (q.table.column? i).isSome = true := by
  rw [← Table.resolve_isSome]
  cases e with
  | column ref =>
    obtain ⟨source, column⟩ := ref
    rw [ownColumn]
    split
    case isTrue hown =>
      cases hown
      cases hc : q.table.resolve column with
      | error e =>
        simp only [Except.map, reduceCtorEq, false_iff]
        rintro ⟨he, c, hi⟩
        cases he
        rw [hc] at hi
        cases hi
      | ok c =>
        simp only [Except.map, Except.ok.injEq, Expr.column.injEq, ColumnRef.mk.injEq, true_and]
        constructor
        · rintro rfl
          exact ⟨rfl, c, hc⟩
        · exact And.left
    case isFalse hother =>
      simp only [reduceCtorEq, false_iff]
      rintro ⟨he, -⟩
      cases he
      exact hother rfl
  | _ => simp [ownColumn]

/-- Expressions are columns of the own row if each of them is one. -/
lemma Query.ownColumns_eq_ok {role : ColumnRole} {es : List Expr} {is : List Nat} :
    q.ownColumns role es = .ok is ↔
      es = is.map (fun i => .column ⟨q.source, i⟩) ∧
        ∀ i ∈ is, (q.table.column? i).isSome = true := by
  induction es generalizing is with
  | nil =>
    rw [ownColumns, Except.ok.injEq]
    constructor
    · rintro rfl
      exact ⟨rfl, List.forall_mem_nil _⟩
    · exact fun h => (List.map_eq_nil_iff.mp h.1.symm).symm
  | cons e es ih =>
    rw [ownColumns]
    constructor
    case mp =>
      intro h
      obtain ⟨i, hi, h⟩ := ok_of_bind h
      obtain ⟨js, hjs, h⟩ := ok_of_bind h
      cases h
      obtain ⟨rfl, hcolumn⟩ := ownColumn_eq_ok.mp hi
      obtain ⟨rfl, hcolumns⟩ := ih.mp hjs
      exact ⟨rfl, List.forall_mem_cons.mpr ⟨hcolumn, hcolumns⟩⟩
    case mpr =>
      rintro ⟨hes, his⟩
      cases is with
      | nil => cases hes
      | cons i js =>
        obtain ⟨rfl, htail⟩ := List.cons.inj hes
        obtain ⟨hi, hjs⟩ := List.forall_mem_cons.mp his
        rw [ownColumn_eq_ok.mpr ⟨rfl, hi⟩, ih.mpr ⟨htail, hjs⟩]
        rfl

/-- An expression gives a number of rows if it is a constant that stands for it. -/
lemma countOf_eq_ok {method : String} {e : Expr} {n : Nat} :
    countOf method e = .ok n ↔ e.Counts n := by
  unfold countOf
  cases hconst : e.isConst with
  | false =>
    refine iff_of_false (fun h => ?_) fun h => ?_
    · cases h
    · have := h.const
      rw [hconst] at this
      cases this
  | true =>
    constructor
    case mp =>
      intro h
      obtain ⟨v, hv, h⟩ := ok_of_bind h
      refine ⟨hconst, ?_⟩
      cases v with
      | int i =>
        dsimp only at h
        split at h
        case isTrue hi =>
          cases h
          exact ⟨i, hv, (Int.toNat_of_nonneg hi).symm⟩
        case isFalse => cases h
      | _ => cases h
    case mpr =>
      rintro ⟨-, i, hi, hn⟩
      -- A count is a natural number, so the integer it comes from is not negative.
      have hpos : 0 ≤ i.toInt := by omega
      have hn : i.toInt.toNat = n := by omega
      rw [hi]
      simp [Bind.bind, Except.bind, hpos, hn]
      rfl

/-- The one argument of an operation. -/
lemma Operation.onlyArg_eq_ok {o : Operation} {e : Expr} :
    o.onlyArg = .ok e ↔ o.args = [e] := by
  unfold onlyArg
  split
  case h_1 a ha => rw [Except.ok.injEq, ha, List.cons.injEq, and_iff_left rfl]
  case h_2 args hne =>
    simp only [reduceCtorEq, false_iff]
    exact fun h => hne e h

end Checks

section Apply

variable {q q' : Query} {o : Operation} {e : Error}

/-- The query with what an operation adds. -/
def Query.after (q : Query) : Effect → Query
  | .filter e => q.withFilter e
  | .order k => { q with orderings := q.orderings ++ [k] }
  | .skip n => { q with skip := some n }
  | .take n => { q with take := some n }
  | .select columns => { q with projection := columns }
  | .distinct => { q with distinct := true }
  | .close terminal none => { q with terminal }
  | .close terminal (some e) => { q.withFilter e with terminal }

/-- What an operation of a known method adds, if it can be applied. -/
lemma Query.applyMethod_means {m : Method} (hm : Method.ofName? o.method = some m)
    (h : q.applyMethod m o = .ok q') :
    ∃ effect, o.Means q.table q.source effect ∧ q' = q.after effect := by
  obtain ⟨name, args⟩ := o
  -- In the order of the methods: filter, order, skip, take, select, distinct and the terminals.
  obtain ⟨rfl, rfl⟩ | ⟨ascending, hname, rfl⟩ | ⟨rfl, rfl⟩ | ⟨rfl, rfl⟩ | ⟨rfl, rfl⟩ | ⟨rfl, rfl⟩ |
    ⟨t, ht, rfl, rfl⟩ := Method.ofName?_cases hm
  · obtain ⟨e, he, h⟩ := ok_of_bind h
    obtain ⟨_, hcheck, hq⟩ := ok_of_bind h
    cases Operation.onlyArg_eq_ok.mp he
    cases hq
    exact ⟨_, .filter (checkFilter_eq_ok.mp hcheck), rfl⟩
  · obtain ⟨e, he, h⟩ := ok_of_bind h
    obtain ⟨i, hi, hq⟩ := ok_of_bind h
    cases Operation.onlyArg_eq_ok.mp he
    cases hq
    obtain ⟨rfl, hcolumn⟩ := ownColumn_eq_ok.mp hi
    exact ⟨_, .order hname hcolumn, rfl⟩
  · obtain ⟨e, he, h⟩ := ok_of_bind h
    obtain ⟨n, hn, hq⟩ := ok_of_bind h
    cases Operation.onlyArg_eq_ok.mp he
    cases hq
    exact ⟨_, .skip (countOf_eq_ok.mp hn), rfl⟩
  · obtain ⟨e, he, h⟩ := ok_of_bind h
    obtain ⟨n, hn, hq⟩ := ok_of_bind h
    cases Operation.onlyArg_eq_ok.mp he
    cases hq
    exact ⟨_, .take (countOf_eq_ok.mp hn), rfl⟩
  · cases args with
    | nil => cases h
    | cons e es =>
      obtain ⟨is, his, hq⟩ := ok_of_bind h
      cases hq
      obtain ⟨hes, hcolumns⟩ := ownColumns_eq_ok.mp his
      have hne : is ≠ [] := by
        rintro rfl
        cases hes
      dsimp only at hes
      rw [hes]
      exact ⟨_, .select hne hcolumns, rfl⟩
  · cases args with
    | nil =>
      cases h
      exact ⟨_, .distinct, rfl⟩
    | cons e es => cases h
  · match args with
    | [] =>
      cases h
      exact ⟨_, .close ht, rfl⟩
    | [e] =>
      obtain ⟨_, hcheck, hq⟩ := ok_of_bind h
      cases hq
      exact ⟨_, .closeFilter ht (checkFilter_eq_ok.mp hcheck), rfl⟩
    | _ :: _ :: _ => cases h

/-- An operation that means something can be applied, and adds just that. -/
lemma Query.apply_means {effect : Effect} (hq : q.terminal = .sequence)
    (h : o.Means q.table q.source effect) : q.apply o = .ok (q.after effect) := by
  have hopen : (!q.terminal.isSequence) = false := by rw [hq]; rfl
  rw [apply, hopen, if_neg Bool.false_ne_true]
  cases h with
  | @filter e he =>
    have hcheck : q.checkFilter "Where" e = .ok () := checkFilter_eq_ok.mpr he
    change q.applyMethod .filter ⟨"Where", [e]⟩ = _
    simp only [applyMethod, Operation.onlyArg, Bind.bind, Except.bind, hcheck]
    rfl
  | @order name ascending i hname hi =>
    have hcolumn : q.ownColumn .ordering (.column ⟨q.source, i⟩) = .ok i :=
      ownColumn_eq_ok.mpr ⟨rfl, hi⟩
    dsimp only
    rw [Method.ofName?_sort hname]
    simp only [applyMethod, Operation.onlyArg, Bind.bind, Except.bind, hcolumn]
    rfl
  | @skip e n hn =>
    have hcount : countOf "Skip" e = .ok n := countOf_eq_ok.mpr hn
    change q.applyMethod .skip ⟨"Skip", [e]⟩ = _
    simp only [applyMethod, Operation.onlyArg, Bind.bind, Except.bind, hcount]
    rfl
  | @take e n hn =>
    have hcount : countOf "Take" e = .ok n := countOf_eq_ok.mpr hn
    change q.applyMethod .take ⟨"Take", [e]⟩ = _
    simp only [applyMethod, Operation.onlyArg, Bind.bind, Except.bind, hcount]
    rfl
  | @select columns hne hcolumns =>
    have hown : q.ownColumns .projection (columns.map fun i => .column ⟨q.source, i⟩) =
        .ok columns := ownColumns_eq_ok.mpr ⟨rfl, hcolumns⟩
    change q.applyMethod .select ⟨"Select", _⟩ = _
    cases columns with
    | nil => exact absurd rfl hne
    | cons i is =>
      simp only [List.map_cons] at hown
      simp only [applyMethod, List.map_cons, List.isEmpty_cons, Bool.false_eq_true, if_false,
        Bind.bind, Except.bind, hown]
      rfl
  | distinct => rfl
  | @close terminal ht =>
    dsimp only
    rw [Method.ofName?_closing ht]
    rfl
  | @closeFilter terminal e ht he =>
    have hcheck : q.checkFilter terminal.name e = .ok () := checkFilter_eq_ok.mpr he
    dsimp only
    rw [Method.ofName?_closing ht]
    simp only [applyMethod, Bind.bind, Except.bind, hcheck]
    rfl

/-- An operation can be applied to a query without a terminal if it means something, and then it
adds just that. -/
theorem Query.apply_eq_ok :
    q.apply o = .ok q' ↔ q.terminal = .sequence ∧
      ∃ effect, o.Means q.table q.source effect ∧ q' = q.after effect := by
  constructor
  case mp =>
    intro h
    rw [apply] at h
    split at h
    case isTrue => cases h
    case isFalse hopen =>
      have hopen : q.terminal = .sequence := by simpa [Terminal.isSequence] using hopen
      refine ⟨hopen, ?_⟩
      split at h
      case h_1 m hm => exact applyMethod_means hm h
      case h_2 => cases h
  case mpr =>
    rintro ⟨hopen, effect, hmeans, rfl⟩
    exact apply_means hopen hmeans

/-- After a terminal no operation can be applied, whatever it means. -/
lemma Query.apply_closed (h : q.terminal ≠ .sequence) :
    q.apply o = .error (.invalidArgument (.afterTerminal o.method q.terminal)) := by
  have hclosed : (!q.terminal.isSequence) = true := by simpa [Terminal.isSequence] using h
  rw [apply, hclosed, if_pos rfl]

/-- A step after which nothing can fail fails if the step does. -/
lemma bind_ok_eq_error {α β : Type} {x : Except Error α} {f : α → β} :
    (x >>= fun a => .ok (f a)) = .error e ↔ x = .error e := by
  cases x <;> simp [Bind.bind, Except.bind]

/-- The columns of the own row are checked by the table and the identity of the row. -/
lemma Query.checkColumns_fresh (refs : List ColumnRef) :
    q.checkColumns refs = (Query.all q.table q.source).checkColumns refs := by
  induction refs with
  | nil => rfl
  | cons ref refs ih =>
    rw [checkColumns, checkColumns, ih]
    rfl

/-- A filter is checked by the table and the identity of the row. -/
lemma Query.checkFilter_fresh (method : String) (e : Expr) :
    q.checkFilter method e = (Query.all q.table q.source).checkFilter method e := by
  rw [checkFilter, checkFilter, checkColumns_fresh]
  rfl

/-- A column is found by the table and the identity of the row. -/
lemma Query.ownColumn_fresh (role : ColumnRole) (e : Expr) :
    q.ownColumn role e = (Query.all q.table q.source).ownColumn role e := by
  cases e <;> rfl

/-- Columns are found by the table and the identity of the row. -/
lemma Query.ownColumns_fresh (role : ColumnRole) (es : List Expr) :
    q.ownColumns role es = (Query.all q.table q.source).ownColumns role es := by
  induction es with
  | nil => rfl
  | cons e es ih =>
    rw [ownColumns, ownColumns, ih, ownColumn_fresh]

/-- An operation that cannot be applied to a query without a terminal fails as it would on a query
without operations. -/
theorem Query.apply_error (hq : q.terminal = .sequence) :
    q.apply o = .error e ↔ (Query.all q.table q.source).apply o = .error e := by
  have hopen : (!q.terminal.isSequence) = false := by rw [hq]; rfl
  have hfresh : (!(Query.all q.table q.source).terminal.isSequence) = false := rfl
  rw [apply, apply, hopen, hfresh, if_neg Bool.false_ne_true, if_neg Bool.false_ne_true]
  -- An operation is checked against the table and the row, which all operations leave as they are.
  cases Method.ofName? o.method with
  | none => rfl
  | some m =>
    dsimp only [applyMethod]
    cases m with
    | filter =>
      cases o.onlyArg with
      | error fault => exact Iff.rfl
      | ok arg =>
        have hcheck := q.checkFilter_fresh o.method arg
        exact bind_ok_eq_error.trans (hcheck ▸ bind_ok_eq_error.symm)
    | order ascending =>
      cases o.onlyArg with
      | error fault => exact Iff.rfl
      | ok arg =>
        have hcolumn := q.ownColumn_fresh .ordering arg
        exact bind_ok_eq_error.trans (hcolumn ▸ bind_ok_eq_error.symm)
    | skip | take =>
      cases o.onlyArg with
      | error fault => exact Iff.rfl
      | ok arg => exact bind_ok_eq_error.trans bind_ok_eq_error.symm
    | select =>
      cases o.args.isEmpty with
      | true => exact Iff.rfl
      | false =>
        have hcolumns := q.ownColumns_fresh .projection o.args
        exact bind_ok_eq_error.trans (hcolumns ▸ bind_ok_eq_error.symm)
    | distinct =>
      cases o.args.isEmpty with
      | true => exact iff_of_false nofun nofun
      | false => exact Iff.rfl
    | close t =>
      match o.args with
      | [] => exact iff_of_false nofun nofun
      | [arg] =>
        have hcheck := q.checkFilter_fresh o.method arg
        exact bind_ok_eq_error.trans (hcheck ▸ bind_ok_eq_error.symm)
      | _ :: _ :: _ => exact Iff.rfl

end Apply

end TableQuery
