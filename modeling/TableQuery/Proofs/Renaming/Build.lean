import TableQuery.Proofs.Renaming.Expression

/-!
# Building with renamed rows

Building a query commutes with renaming its rows: each operation does to the renamed query what it
does to the query, and it fails with the same error (`Query.build_rename`).  An operation compares
rows only to find the columns of the query's own row.
-/

namespace TableQuery

variable {f : SourceId → SourceId} {q : Query}

section Fields

/-- Renaming keeps the table. -/
@[simp] lemma Query.rename_table : (q.rename f).table = q.table := by cases q; rfl

/-- Renaming renames the identity of the row. -/
@[simp] lemma Query.rename_source : (q.rename f).source = f q.source := by cases q; rfl

/-- Renaming renames in the filter. -/
@[simp] lemma Query.rename_predicate :
    (q.rename f).predicate = q.predicate.map (Expr.rename f) := by
  cases q with
  | mk _ _ predicate => cases predicate <;> rfl

/-- Renaming keeps the orderings. -/
@[simp] lemma Query.rename_orderings : (q.rename f).orderings = q.orderings := by cases q; rfl

/-- Renaming keeps the columns that are returned. -/
@[simp] lemma Query.rename_projection : (q.rename f).projection = q.projection := by cases q; rfl

/-- Renaming keeps the number of rows that are left out. -/
@[simp] lemma Query.rename_skip : (q.rename f).skip = q.skip := by cases q; rfl

/-- Renaming keeps the number of rows that are taken. -/
@[simp] lemma Query.rename_take : (q.rename f).take = q.take := by cases q; rfl

/-- Renaming keeps whether rows are distinct. -/
@[simp] lemma Query.rename_distinct : (q.rename f).distinct = q.distinct := by cases q; rfl

/-- Renaming keeps the terminal. -/
@[simp] lemma Query.rename_terminal : (q.rename f).terminal = q.terminal := by cases q; rfl

end Fields

namespace Query

/-- A filter is added to the renamed query as it is to the query. -/
lemma withFilter_rename (e : Expr) :
    (q.withFilter e).rename f = (q.rename f).withFilter (e.rename f) := by
  cases q with
  | mk _ _ predicate => cases predicate <;> rfl

/-- The columns of the query's own row are those of the renamed row, as no other row has its
name. -/
lemma checkColumns_rename (hf : Function.Injective f) (refs : List ColumnRef) :
    (q.rename f).checkColumns (refs.map (ColumnRef.rename f)) = q.checkColumns refs := by
  induction refs with
  | nil => rfl
  | cons ref refs ih =>
    simp only [List.map_cons, checkColumns, ColumnRef.rename, rename_source, rename_table,
      hf.eq_iff, ih]

/-- A renamed column has its storage class in the renamed query. -/
lemma columnType_rename (hf : Function.Injective f) (ref : ColumnRef) :
    (q.rename f).columnType (ref.rename f) = q.columnType ref := by
  simp only [columnType, ColumnRef.rename, rename_source, rename_table, hf.eq_iff]

/-- A renamed filter is checked alike. -/
lemma checkFilter_rename (hf : Function.Injective f) (method : String) (e : Expr) :
    (q.rename f).checkFilter method (e.rename f) = q.checkFilter method e := by
  have htype : (e.rename f).inferType (q.rename f).columnType = e.inferType q.columnType :=
    e.inferType_rename fun ref _ => columnType_rename hf ref
  unfold checkFilter
  rw [e.columns_rename, checkColumns_rename hf, htype]

/-- A renamed column is an own one of the renamed query just if it was one. -/
lemma ownColumn_rename (hf : Function.Injective f) (role : ColumnRole) (e : Expr) :
    (q.rename f).ownColumn role (e.rename f) = q.ownColumn role e := by
  cases e with
  | column ref =>
    simp only [Expr.rename, ownColumn, ColumnRef.rename, rename_source, rename_table, hf.eq_iff]
  | _ => rfl

/-- Renamed columns are own ones of the renamed query just if they were. -/
lemma ownColumns_rename (hf : Function.Injective f) (role : ColumnRole) (es : List Expr) :
    (q.rename f).ownColumns role (listRename f es) = q.ownColumns role es := by
  induction es with
  | nil => rfl
  | cons e es ih => rw [listRename, ownColumns, ownColumn_rename hf, ih, ownColumns]

end Query

/-- A count is a constant, which reads no row. -/
lemma countOf_rename (method : String) (e : Expr) :
    countOf method (e.rename f) = countOf method e := by
  cases const : e.isConst with
  | true => rw [e.rename_const const]
  | false => simp only [countOf, e.isConst_rename, const, e.describe_rename]; rfl

/-- Renaming keeps whether there are expressions. -/
lemma isEmpty_listRename (es : List Expr) : (listRename f es).isEmpty = es.isEmpty := by
  cases es <;> rfl

/-- The argument of a renamed operation is the renamed argument. -/
lemma Operation.onlyArg_rename (o : Operation) :
    (o.rename f).onlyArg = o.onlyArg.map (Expr.rename f) := by
  obtain ⟨method, args⟩ := o
  match args with
  | [] => rfl
  | [e] => rfl
  | e :: e' :: es =>
    simp only [onlyArg, rename, listRename, List.length_cons, length_listRename, Except.map]

namespace Query

/-- What a method does commutes with renaming. -/
lemma applyMethod_rename (hf : Function.Injective f) (method : Method) (o : Operation) :
    (q.rename f).applyMethod method (o.rename f) = (q.applyMethod method o).map (rename f) := by
  have hargs : (o.rename f).args = listRename f o.args := rfl
  have hmethod : (o.rename f).method = o.method := rfl
  -- Each method looks at the row of the query in its checks only; what it then adds is renamed
  -- whole.
  cases method with
  | filter =>
    simp only [applyMethod, o.onlyArg_rename, hmethod]
    cases o.onlyArg with
    | error err => rfl
    | ok e =>
      simp only [Except.map, Bind.bind, Except.bind, checkFilter_rename hf, ← withFilter_rename]
      cases q.checkFilter o.method e <;> rfl
  | order ascending =>
    simp only [applyMethod, o.onlyArg_rename]
    cases o.onlyArg with
    | error err => rfl
    | ok e =>
      simp only [Except.map, Bind.bind, Except.bind, ownColumn_rename hf]
      cases q.ownColumn .ordering e with
      | error err => rfl
      | ok column => cases q; rfl
  | skip | take =>
    simp only [applyMethod, o.onlyArg_rename, hmethod]
    cases o.onlyArg with
    | error err => rfl
    | ok e =>
      simp only [Except.map, Bind.bind, Except.bind, countOf_rename]
      cases countOf o.method e with
      | error err => rfl
      | ok n => cases q; rfl
  | select =>
    simp only [applyMethod, hargs, isEmpty_listRename, ownColumns_rename hf]
    cases o.args.isEmpty with
    | true => rfl
    | false =>
      cases q.ownColumns .projection o.args with
      | error err => rfl
      | ok columns => cases q; rfl
  | distinct =>
    simp only [applyMethod, hargs, hmethod, isEmpty_listRename, length_listRename]
    cases o.args.isEmpty with
    | true => cases q; rfl
    | false => rfl
  | close terminal =>
    obtain ⟨name, args⟩ := o
    match args with
    | [] => cases q; rfl
    | [e] =>
      simp only [applyMethod, Operation.rename, listRename, checkFilter_rename hf,
        ← withFilter_rename]
      cases q.checkFilter name e with
      | error err => rfl
      | ok _ =>
        generalize q.withFilter e = q'
        cases q'
        rfl
    | e :: e' :: es =>
      simp only [applyMethod, Operation.rename, listRename, List.length_cons, length_listRename]
      rfl

/-- What an operation does commutes with renaming. -/
lemma apply_rename (hf : Function.Injective f) (o : Operation) :
    (q.rename f).apply (o.rename f) = (q.apply o).map (rename f) := by
  have hmethod : (o.rename f).method = o.method := rfl
  simp only [apply, rename_terminal, hmethod]
  split
  · rfl
  cases Method.ofName? o.method with
  | none => rfl
  | some method => exact applyMethod_rename hf method o

/-- A renamed query is built from renamed operations as the query is. -/
theorem build_rename (hf : Function.Injective f) (os : List Operation) :
    (q.rename f).build (os.map (Operation.rename f)) = (q.build os).map (rename f) := by
  induction os generalizing q with
  | nil => rfl
  | cons o os ih =>
    rw [List.map_cons, build, apply_rename hf, build]
    cases q.apply o with
    | error err => rfl
    | ok q' => exact ih

end Query

end TableQuery
