import TableQuery.Proofs.Outcome.Compilation
import TableQuery.Proofs.Schema.Index

/-!
# Plain filters

Plain filters are made with the logical operators from comparisons of columns with literals or with
each other, and from memberships of columns in lists.  A statement binds the literals and list
members of its plain filter in the order in which they are read, without nulls, in every dialect
(`plain_filter_binds`).

A step binds given values (`Emit.Binds`) if it binds just these when it succeeds.  A literal may
change sides with a column, and nulls are tested for and not bound, but nothing else is bound and
nothing is bound twice.
-/

namespace TableQuery

/-- A filter made with the logical operators from comparisons of columns with literals or with each
other, and from memberships of columns in lists. -/
inductive Expr.IsPlainFilter : Expr → Prop
  | columnLiteral {op : BinaryOp} (ref : ColumnRef) (v : Value) : op.isComparison = true →
    IsPlainFilter (.binary op (.column ref) (.value v))
  | literalColumn {op : BinaryOp} (v : Value) (ref : ColumnRef) : op.isComparison = true →
    IsPlainFilter (.binary op (.value v) (.column ref))
  | columns {op : BinaryOp} (left right : ColumnRef) : op.isComparison = true →
    IsPlainFilter (.binary op (.column left) (.column right))
  | inList (ref : ColumnRef) (members : List Value) :
    IsPlainFilter (.inList (.column ref) members)
  | logical {op : BinaryOp} {l r : Expr} : op.isLogical = true → IsPlainFilter l →
    IsPlainFilter r → IsPlainFilter (.binary op l r)
  | not {e : Expr} : IsPlainFilter e → IsPlainFilter (.unary .not e)

/-- The literals of a filter and the members of its lists, from left to right. -/
def Expr.inReadingOrder : Expr → List Value
  | .value v => [v]
  | .unary _ e => e.inReadingOrder
  | .binary _ l r => l.inReadingOrder ++ r.inReadingOrder
  | .inList e members => e.inReadingOrder ++ members
  | _ => []

/-- The values of two lists that are not null. -/
lemma Value.present_append (us vs : List Value) : present (us ++ vs) = present us ++ present vs :=
  List.filter_append us vs

/-- A plain filter reads a row. -/
lemma Expr.IsPlainFilter.isConst {p : Expr} (h : p.IsPlainFilter) : p.isConst = false := by
  induction h with
  | columnLiteral | inList => rfl
  | literalColumn | columns => rfl
  | logical _ _ _ ihl _ => rw [Expr.isConst, ihl, Bool.false_and]
  | not _ ih => exact ih

/-- A plain filter gives a truth value. -/
lemma Expr.IsPlainFilter.isPredicate {p : Expr} (h : p.IsPlainFilter) : p.isPredicate = true := by
  cases h with
  | columnLiteral _ _ hop | literalColumn _ _ hop | columns _ _ hop =>
    exact BinaryOp.isPredicate_of_isComparison hop
  | logical hop => rw [Expr.isPredicate, BinaryOp.isPredicate, hop, Bool.true_or]
  | inList | not => rfl

namespace Sql

namespace Emit

variable {α β : Type} {x : Emit α} {us vs : List Value}

/-- If the step succeeds, it binds just these values. -/
def Binds (x : Emit α) (vs : List Value) : Prop := x.Gives fun _ us => us = vs

/-- A step that only returns binds nothing. -/
lemma Binds.pure (a : α) : (Pure.pure a : Emit α).Binds [] := Gives.pure rfl

/-- A step that fails binds nothing that could be wrong. -/
lemma Binds.fail (err : Error) : (fail err : Emit α).Binds vs := Gives.fail

/-- A result binds nothing. -/
lemma Binds.lift (r : Except Error α) : (lift r).Binds [] := fun _ _ => rfl

/-- One step after another binds what the first binds and then what the second binds. -/
lemma Binds.bind {f : α → Emit β} (hx : x.Binds us) (hf : ∀ a, (f a).Binds vs) :
    (x >>= f).Binds (us ++ vs) := by
  refine Gives.bind hx ?_
  rintro a _ rfl b hb
  exact congrArg _ (hf a b hb)

/-- A function of what a step gives binds what the step binds. -/
lemma Binds.map {f : α → β} (hx : x.Binds us) : (do return f (← x)).Binds us := by
  rw [← List.append_nil us]
  exact hx.bind fun a => .pure (f a)

/-- A step after one that binds nothing. -/
lemma Binds.lift_bind {r : Except Error α} {f : α → Emit β} (hf : ∀ a, r = .ok a → (f a).Binds vs) :
    (Emit.lift r >>= f).Binds vs :=
  Gives.lift_bind hf

end Emit

section Forms

variable {ctx : Context} {op : BinaryOp} {operand left right : Emit Scalar}

/-- A literal binds its value, and null binds nothing. -/
lemma literal_binds (v : Value) : (literal v).Binds (Value.present [v]) := by
  unfold literal Value.present
  cases hnull : v.isNull with
  | true =>
    rw [List.filter_cons_of_neg (by simp [hnull])]
    exact fun _ _ => rfl
  | false =>
    rw [List.filter_cons_of_pos (by simp [hnull])]
    exact fun _ _ => rfl

/-- Literals bind the values other than null. -/
lemma literals_binds (vs : List Value) : (literals vs).Binds (Value.present vs) := by
  induction vs with
  | nil => exact .pure []
  | cons v vs ih =>
    have hsplit : Value.present (v :: vs) = Value.present [v] ++ Value.present vs :=
      Value.present_append [v] vs
    rw [hsplit]
    exact (literal_binds v).bind fun x => ih.map

/-- A column binds nothing. -/
lemma column_binds (ref : ColumnRef) (ctx : Context) :
    (formsOf (.column ref) ctx).scalar.Binds [] :=
  Emit.Binds.map (.lift _)

/-- A comparison of what binds nothing with a literal binds the literal. -/
lemma againstConstant_binds (v : Value) (hx : operand.Binds []) :
    (againstConstant op operand (.value v)).Binds (Value.present [v]) := by
  refine .lift_bind fun w hw => ?_
  obtain rfl : v = w := by
    cases hw
    rfl
  cases hnull : v.isNull with
  | true =>
    have hnone : Value.present [v] = [] := List.filter_cons_of_neg (by simp [hnull])
    rw [if_pos rfl, hnone]
    split
    · exact hx.map
    · exact hx.map
    · exact .fail _
  | false =>
    rw [if_neg Bool.false_ne_true]
    exact hx.bind fun x => (literal_binds v).map

/-- A connective binds what its operands bind. -/
lemma logical_binds {us vs : List Value} {l r : Emit Cond} (hl : l.Binds us) (hr : r.Binds vs) :
    (logical op l r).Binds (us ++ vs) :=
  hl.bind fun _ => hr.map

/-- Membership of what binds nothing binds the members of the list. -/
lemma membership_binds (members : List Value) (hx : operand.Binds []) :
    (membership operand members).Binds (Value.present members) := by
  have hlist : (literals (Value.present members)).Binds (Value.present members) := by
    have htwice : Value.present (Value.present members) = Value.present members := by
      simp only [Value.present, List.filter_filter, Bool.and_self]
    have h := literals_binds (Value.present members)
    rwa [htwice] at h
  unfold membership
  dsimp only
  split
  next hempty _ =>
    have hnone : Value.present members = [] := List.isEmpty_iff.mp hempty
    rw [hnone]
    exact .pure _
  next hempty _ =>
    have hnone : Value.present members = [] := List.isEmpty_iff.mp hempty
    rw [hnone]
    exact hx.map
  next => exact hx.bind fun x => hlist.map
  next =>
    have hboth := hx.bind fun x => hlist.bind fun xs =>
      hx.map (f := fun y => Cond.paren (.or (.inList x xs) (.isNull y)))
    rwa [List.append_nil] at hboth

/-- The condition of a plain filter binds what is read in it. -/
theorem condition_binds {p : Expr} (h : p.IsPlainFilter) (ctx : Context) :
    (formsOf p ctx).condition.Binds (Value.present p.inReadingOrder) := by
  have hforms : ∀ {p : Expr} {forms : Forms}, p.IsPlainFilter →
      Forms.unlessConstant p forms = forms := by
    intro p forms h
    rw [Forms.unlessConstant, h.isConst, if_neg Bool.false_ne_true]
  induction h with
  | columnLiteral ref v hop =>
    rw [formsOf, hforms (.columnLiteral ref v hop),
      if_neg (BinaryOp.not_isLogical_of_isComparison hop), if_pos hop]
    exact againstConstant_binds v (column_binds ref ctx)
  | literalColumn v ref hop =>
    rw [formsOf, hforms (.literalColumn v ref hop),
      if_neg (BinaryOp.not_isLogical_of_isComparison hop), if_pos hop]
    exact againstConstant_binds v (column_binds ref ctx)
  | columns left right hop =>
    rw [formsOf, hforms (.columns left right hop),
      if_neg (BinaryOp.not_isLogical_of_isComparison hop), if_pos hop]
    exact (column_binds left ctx).bind fun x => (column_binds right ctx).map
  | inList ref members =>
    rw [formsOf, hforms (.inList ref members)]
    exact membership_binds members (column_binds ref ctx)
  | @logical op l r hop hl hr ihl ihr =>
    rw [formsOf, hforms (.logical hop hl hr), if_pos hop, Expr.inReadingOrder,
      Value.present_append]
    exact logical_binds ihl ihr
  | @not e he ih =>
    rw [formsOf, hforms (.not he)]
    exact ih.map

end Forms

section Statements

variable {ctx : Context} {q : Query} {c : Emit Cond} {vs : List Value}

/-- A statement without a derived table binds what its filter binds. -/
lemma Select.direct_binds (hc : c.Binds vs) : (Select.direct ctx q (some c)).Binds vs := by
  have hfilters : (presentConditions [some c]).Binds vs := hc.map
  refine .lift_bind fun keys _ => .lift_bind fun output _ => ?_
  rw [← List.append_nil vs]
  exact hfilters.bind fun filters => .lift_bind fun order _ => .pure _

/-- A statement binds what its filter binds. -/
lemma Select.of_binds (hc : c.Binds vs) : (Select.of ctx q (some c)).Binds vs := by
  unfold Select.of
  split
  · exact (Select.direct_binds hc).map
  · exact Select.direct_binds hc

/-- The parameters of a statement are the values that its step binds. -/
lemma parameters_of_binds {d : Dialect} {x : Emit Fragment} {st : Statement} (hx : x.Binds vs)
    (h : Statement.of d x = .ok st) : st.parameters = vs := by
  obtain ⟨f, hf, -, hparameters⟩ := Statement.of_eq_ok h
  rw [hparameters]
  exact hx f hf

/-- The filter of a request: that of a query, or an expression itself. -/
def Request.filter? : Request → Option Expr
  | query q => q.predicate
  | expr _ e => some e

/-- A request binds what is read in its filter, if this is plain. -/
lemma Request.emit_binds {p : Expr} {r : Request} {d : Dialect} (hp : p.IsPlainFilter)
    (hr : r.filter? = some p) : (r.emit d).Binds (Value.present p.inReadingOrder) := by
  cases r with
  | query q =>
    obtain ⟨table, source, predicate, orderings, projection, skip, take, distinct, terminal⟩ := q
    cases hr
    exact (Select.of_binds (condition_binds hp _)).map
  | expr q e =>
    cases hr
    rw [Request.emit, ofExpr, hp.isPredicate, if_pos rfl]
    exact (condition_binds hp _).map

end Statements

/-- If the filter of a query, or an expression, is plain and compiles to a statement, then the
parameters of the statement are the literals and list members of the filter from left to right
without the nulls, and the statement exists in every dialect with the same parameters. -/
theorem plain_filter_binds {p : Expr} {r : Request} {d : Dialect} {st : Statement}
    (hp : p.IsPlainFilter) (hr : r.filter? = some p) (h : r.compile d = .ok st) :
    st.parameters = Value.present p.inReadingOrder ∧
      ∀ d', ∃ st', r.compile d' = .ok st' ∧ st'.parameters = st.parameters := by
  have hparameters : ∀ {d st}, r.compile d = .ok st →
      st.parameters = Value.present p.inReadingOrder := by
    intro d st h
    rw [Request.compile_eq] at h
    exact parameters_of_binds (Request.emit_binds hp hr) h
  refine ⟨hparameters h, fun d' => ?_⟩
  obtain ⟨st', hst'⟩ := (Request.compile_ok_congr d d' r).mp ⟨st, h⟩
  exact ⟨st', hst', (hparameters hst').trans (hparameters h).symm⟩

/-- A table of kettles. -/
def kettleTable : Table :=
  .of "kettles"
    [⟨"Id", "id", .int, false, true⟩, ⟨"Volume", "volume", .int, true, false⟩] (by decide)

/-- Kettles by number and by volume, with nulls and with values that occur twice. -/
def kettleFilter : Expr :=
  .binary .or
    (.binary .and (.binary .lessThan (.value (.int 7)) (.column ⟨⟨0⟩, 1⟩))
      (.unary .not (.inList (.column ⟨⟨0⟩, 1⟩) [.int 7, .null, .int 9])))
    (.binary .and (.binary .notEqual (.value .null) (.column ⟨⟨0⟩, 1⟩))
      (.binary .greaterThan (.column ⟨⟨0⟩, 0⟩) (.value (.int 7))))

/-- Kettles are counted by a filter that binds three times the same value. -/
theorem plain_filter_binds_kettles :
    kettleFilter.IsPlainFilter ∧
      ∃ st, { Query.all kettleTable ⟨0⟩ with
          predicate := some kettleFilter, terminal := .count, distinct := true }.compile
            .sqlServer = .ok st ∧
        st.parameters = [.int 7, .int 7, .int 9, .int 7] := by
  have hplain : kettleFilter.IsPlainFilter :=
    .logical rfl (.logical rfl (.literalColumn _ _ rfl) (.not (.inList _ _)))
      (.logical rfl (.literalColumn _ _ rfl) (.columnLiteral _ _ rfl))
  refine ⟨hplain, _, rfl, ?_⟩
  exact (plain_filter_binds (d := .sqlServer) (r := .query { Query.all kettleTable ⟨0⟩ with
    predicate := some kettleFilter, terminal := .count, distinct := true }) hplain rfl rfl).1

end Sql

end TableQuery
