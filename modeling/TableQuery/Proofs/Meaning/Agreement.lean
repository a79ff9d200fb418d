import TableQuery.Proofs.Emission.Present
import TableQuery.Proofs.Meaning.Folding
import TableQuery.Proofs.Schema.Names
import TableQuery.Proofs.Statement

/-!
# Texts and constants agree

A server that evaluates the text of an expression on a row finds the value that the expression folds
to when the values of the row stand for its columns (`value_of_compile`), for expressions of a class
over a row without null.

Both forms of an expression are single phrases, and if the expression folds to a value, each phrase
has it (`formsOf_agree`), by induction on how the expression is of its class.  A phrase whose
expression folds to no value may have any value or none; that never matters where the expression
around it has a value.
-/

namespace TableQuery.Sql

section Yields

variable {columns : String → Option Value} {r rl rr : Except Error Value} {ps qs : List Phrase}

/-- Whether phrases are a single one, and have the value that a computation yields, if it yields
one. -/
def Yields (columns : String → Option Value) (r : Except Error Value) (ps : List Phrase) : Prop :=
  ∃ p, ps = [p] ∧ ∀ v, r = .ok v → p.value? columns = some v.stored

/-- A parameter has the value that it is bound to. -/
lemma Yields.param (v : Value) : Yields columns (.ok v) [.value v] := by
  refine ⟨_, rfl, fun w hw => ?_⟩
  cases hw
  rfl

/-- A truth value has itself. -/
lemma value?_truth (d : Dialect) (b : Bool) :
    Phrase.value? columns (.word (truthText d b)) = some (Value.bool b).stored := by
  cases d <;> cases b <;> rfl

/-- A truth value is true as it is stored. -/
lemma truthOf_stored (b : Bool) : truthOf (some (Value.bool b).stored) = some b := by
  cases b <;> rfl

/-- An operator before a single phrase, in parentheses. -/
lemma Yields.signed {s : String} (hx : Yields columns rl ps)
    (h : ∀ v, r = .ok v → ∃ a, rl = .ok a ∧ Sql.signed s a.stored = some v.stored) :
    Yields columns r [.group (.symbol s :: ps)] := by
  obtain ⟨p, rfl, hp⟩ := hx
  refine ⟨_, rfl, fun v hv => ?_⟩
  obtain ⟨a, ha, hs⟩ := h v hv
  have heval : Phrase.value? columns (.group [.symbol s, p]) =
      (p.value? columns).bind (Sql.signed s) := rfl
  rw [heval, hp a ha]
  exact hs

/-- An operator between two phrases, in parentheses. -/
lemma Yields.operated {s : String} (hx : Yields columns rl ps) (hy : Yields columns rr qs)
    (h : ∀ v, r = .ok v → ∃ a b, rl = .ok a ∧ rr = .ok b ∧
      Sql.operated s a.stored b.stored = some v.stored) :
    Yields columns r [.group (ps ++ .symbol s :: qs)] := by
  obtain ⟨p, rfl, hp⟩ := hx
  obtain ⟨q, rfl, hq⟩ := hy
  refine ⟨_, rfl, fun v hv => ?_⟩
  obtain ⟨a, b, ha, hb, hs⟩ := h v hv
  have heval : Phrase.value? columns (.group ([p] ++ .symbol s :: [q])) =
      (p.value? columns).bind fun v => (q.value? columns).bind (Sql.operated s v) := rfl
  rw [heval, hp a ha, hq b hb]
  exact hs

/-- A negation, in parentheses. -/
lemma Yields.negated (hx : Yields columns rl ps)
    (h : ∀ v, r = .ok v → ∃ b, rl = .ok (.bool b) ∧ v = .bool !b) :
    Yields columns r [.group (.word "not" :: ps)] := by
  obtain ⟨p, rfl, hp⟩ := hx
  refine ⟨_, rfl, fun v hv => ?_⟩
  obtain ⟨b, hb, rfl⟩ := h v hv
  have heval : Phrase.value? columns (.group [.word "not", p]) =
      some (ofTruth ((truthOf (p.value? columns)).map not)) := rfl
  rw [heval, hp _ hb, truthOf_stored]
  rfl

/-- A word between two phrases, in parentheses. -/
lemma Yields.connected {w : String} {p q : Phrase} (hp : ps = [p]) (hq : qs = [q])
    (h : ∀ v, r = .ok v →
      Sql.connected w (p.value? columns) (q.value? columns) (q.members? columns) =
        some v.stored) :
    Yields columns r [.group (ps ++ .word w :: qs)] := by
  subst hp
  subst hq
  exact ⟨_, rfl, h⟩

/-- A choice between two phrases, in parentheses. -/
lemma Yields.chosen {rt ry rn : Except Error Value} {ts ys ns : List Phrase}
    (ht : Yields columns rt ts) (hy : Yields columns ry ys) (hn : Yields columns rn ns)
    (h : ∀ v, r = .ok v → ∃ b, rt = .ok (.bool b) ∧ (if b then ry else rn) = .ok v) :
    Yields columns r [.group (.word "CASE" :: .word "WHEN" :: (ts ++ .word "THEN" ::
      (ys ++ .word "ELSE" :: (ns ++ [Phrase.word "END"]))))] := by
  obtain ⟨p, rfl, hp⟩ := ht
  obtain ⟨y, rfl, hy⟩ := hy
  obtain ⟨n, rfl, hn⟩ := hn
  refine ⟨_, rfl, fun v hv => ?_⟩
  obtain ⟨b, hb, hv⟩ := h v hv
  have heval : Phrase.value? columns (.group [.word "CASE", .word "WHEN", p, .word "THEN", y,
      .word "ELSE", n, .word "END"]) =
      (p.value? columns).bind fun v =>
        if truthOf (some v) = some true then y.value? columns else n.value? columns := rfl
  have htruth := truthOf_stored b
  change Phrase.value? columns (.group [.word "CASE", .word "WHEN", p, .word "THEN", y,
      .word "ELSE", n, .word "END"]) = _
  rw [heval, hp _ hb, Option.bind_some, htruth]
  cases b with
  | true => exact hy v hv
  | false => exact hn v hv

/-- The first of two values that is not null. -/
lemma Yields.coalesced {ty : ColumnType} (hx : Yields columns rl ps) (hy : ∃ q, qs = [q])
    (hty : ∀ v, rl = .ok v → v.type? = some ty) (h : ∀ v, r = .ok v → rl = .ok v) :
    Yields columns r [.call "COALESCE" (ps ++ .mark ',' :: qs)] := by
  obtain ⟨p, rfl, hp⟩ := hx
  obtain ⟨q, rfl⟩ := hy
  refine ⟨_, rfl, fun v hv => ?_⟩
  have hv := h v hv
  have heval : Phrase.value? columns (.call "COALESCE" [p, .mark ',', q]) =
      firstPresent [p.value? columns, q.value? columns] := rfl
  change Phrase.value? columns (.call "COALESCE" [p, .mark ',', q]) = _
  rw [heval, hp v hv]
  have hty := hty v hv
  cases v with
  | null => cases hty
  | _ => rfl

end Yields

/-- Whether both forms of an expression are phrases with the value that a computation yields. -/
structure Forms.Agree (d : Dialect) (columns : String → Option Value) (f : Forms)
    (r : Except Error Value) : Prop where
  condition : f.condition.Gives fun c _ => Yields columns r (c.phrases d)
  scalar : f.scalar.Gives fun x _ => Yields columns r (x.phrases d)

section Forms

variable {d : Dialect} {columns : String → Option Value} {r rl rr : Except Error Value}
  {ty : ColumnType} {ctx : Context} {e : Expr}

/-- A truth value as a phrase. -/
lemma Yields.truth (b : Bool) : Yields columns (.ok (.bool b)) [.word (truthText d b)] := by
  refine ⟨_, rfl, fun v hv => ?_⟩
  cases hv
  exact value?_truth d b

/-- A constant of a class has its value where it is bound. -/
lemma foldsPresent_of_foldsTo (he : FoldsTo e ty) :
    FoldsPresent (fun x => Yields columns e.fold (x.phrases d)) e := by
  intro v hv
  refine ⟨Value.isNull_of_type? (he v hv), ?_⟩
  rw [hv]
  exact Yields.param v

/-- The forms of a constant. -/
lemma Forms.ofConstant_agree (he : FoldsTo e ty) :
    (Forms.ofConstant e).Agree d columns e.fold where
  condition := by
    refine Forms.ofConstant_condition_gives fun b hb => ⟨_, rfl, fun v hv => ?_⟩
    rw [hb] at hv
    cases hv
    cases b <;> rfl
  scalar := Forms.ofConstant_scalar_gives (foldsPresent_of_foldsTo he)

/-- The forms of a condition. -/
lemma Forms.ofCondition_agree {c : Emit Cond} (hr : ∀ v, r = .ok v → v.type? = some .bool)
    (h : c.Gives fun c _ => Yields columns r (c.phrases d)) :
    (Forms.ofCondition c).Agree d columns r where
  condition := h
  scalar := by
    refine h.bind fun c _ hc => .pure ?_
    refine hc.chosen (.truth true) (.truth false) fun v hv => ?_
    obtain ⟨b, rfl⟩ := Value.bool_of_type? (hr v hv)
    refine ⟨b, hv, ?_⟩
    cases b <;> rfl

/-- The forms of a value. -/
lemma Forms.ofScalar_agree {x : Emit Scalar} (hty : ctx.inferType e = some ty)
    (hr : ∀ v, r = .ok v → v.type? = some ty)
    (h : x.Gives fun x _ => Yields columns r (x.phrases d)) :
    (Forms.ofScalar ctx e x).Agree d columns r where
  condition := by
    refine Forms.ofScalar_condition_gives hty h fun hbool x hx => ?_
    refine hx.operated (.truth true) fun v hv => ?_
    obtain ⟨b, rfl⟩ := Value.bool_of_type? ((hr v hv).trans (congrArg some hbool))
    refine ⟨_, _, hv, rfl, ?_⟩
    cases b <;> rfl
  scalar := h

/-- The forms of what may be constant. -/
lemma Forms.unlessConstant_agree {row : List Value} {f : Forms} (he : FoldsTo (e.onRow row) ty)
    (h : f.Agree d columns (e.onRow row).fold) :
    (Forms.unlessConstant e f).Agree d columns (e.onRow row).fold := by
  unfold Forms.unlessConstant
  split
  case isTrue hconst =>
    rw [Expr.onRow_of_isConst e hconst] at he ⊢
    exact Forms.ofConstant_agree he
  case isFalse => exact h

end Forms

section Operators

variable {d : Dialect} {columns : String → Option Value} {rx : Except Error Value}
  {ty : ColumnType} {ctx : Context} {op : BinaryOp} {e l r l' r' : Expr}
  {left right : Emit Scalar}

/-- A comparison.  If only one operand is a constant, it is on the right. -/
lemma comparison_yields {row : List Value} (hop : op.isComparison = true) (hty : ty.IsBasic)
    (hl : FoldsTo (l.onRow row) ty) (hr : FoldsTo (r.onRow row) ty)
    (hleft : left.Gives fun x _ => Yields columns (l.onRow row).fold (x.phrases d))
    (hright : right.Gives fun x _ => Yields columns (r.onRow row).fold (x.phrases d)) :
    (comparison op l r left right).Gives fun c _ =>
      Yields columns (Expr.binary op (l.onRow row) (r.onRow row)).fold (c.phrases d) := by
  have hcompare : ∀ v, (Expr.binary op (l.onRow row) (r.onRow row)).fold = .ok v →
      ∃ a b, (l.onRow row).fold = .ok a ∧ (r.onRow row).fold = .ok b ∧
        operated op.symbol a.stored b.stored = some v.stored := by
    intro v hv
    obtain ⟨a, b, ha, hb, hv⟩ := fold_comparison hop hv
    exact ⟨a, b, ha, hb, operated_of_comparison hop hty (hl a ha) (hr b hb) hv⟩
  have hpresent : ∀ {e : Expr}, FoldsTo (e.onRow row) ty → e.isConst = true →
      FoldsPresent (fun x => Yields columns (e.onRow row).fold (x.phrases d)) e := by
    intro e he hconst
    rw [Expr.onRow_of_isConst e hconst] at he ⊢
    exact foldsPresent_of_foldsTo he
  refine comparison_gives (hpresent hl) (hpresent hr) hleft hright
    (fun x y hx hy => hx.operated hy hcompare) fun x y hx hy => ?_
  refine hy.operated hx fun v hv => ?_
  obtain ⟨a, b, ha, hb, hs⟩ := hcompare v hv
  exact ⟨b, a, hb, ha, (operated_commute hop a.stored b.stored).trans hs⟩

/-- An operator of one operand on a number. -/
lemma sign_yields {op : UnaryOp} {x : Scalar} (hop : op ≠ .not) (hl : FoldsTo l' .int)
    (hx : Yields columns l'.fold (x.phrases d)) :
    Yields columns (Expr.unary op l').fold [.group (.symbol op.symbol :: x.phrases d)] := by
  refine hx.signed fun v hv => ?_
  obtain ⟨a, ha, hv⟩ := fold_unary hv
  obtain ⟨n, rfl⟩ := Value.int_of_type? (hl a ha)
  exact ⟨_, ha, (signed_of_unary hop hv).1⟩

/-- A numeric operator on two numbers. -/
lemma grouped_yields {x y : Scalar} (hop : op.isNumeric = true) (hl : FoldsTo l' .int)
    (hr : FoldsTo r' .int) (hx : Yields columns l'.fold (x.phrases d))
    (hy : Yields columns r'.fold (y.phrases d)) :
    Yields columns (Expr.binary op l' r').fold ((grouped op x y).phrases d) := by
  refine hx.operated hy fun v hv => ?_
  obtain ⟨a, b, ha, hb, hv⟩ := fold_numeric hop hl hr hv
  exact ⟨_, _, ha, hb, (operated_of_binary hop hv).1⟩

/-- The exclusive or of two integers, where there is no sign for it. -/
lemma exclusiveOr_yields {x y x' y' : Scalar} (hl : FoldsTo l' .int) (hr : FoldsTo r' .int)
    (hx : Yields columns l'.fold (x.phrases d)) (hy : Yields columns r'.fold (y.phrases d))
    (hx' : Yields columns l'.fold (x'.phrases d)) (hy' : Yields columns r'.fold (y'.phrases d)) :
    Yields columns (Expr.binary .exclusiveOr l' r').fold
      ((grouped .subtract (grouped .bitwiseOr x y) (grouped .bitwiseAnd x' y')).phrases d) := by
  have hor : Yields columns (Expr.binary .bitwiseOr l' r').fold
      ((grouped .bitwiseOr x y).phrases d) := grouped_yields rfl hl hr hx hy
  have hand : Yields columns (Expr.binary .bitwiseAnd l' r').fold
      ((grouped .bitwiseAnd x' y').phrases d) := grouped_yields rfl hl hr hx' hy'
  refine hor.operated hand fun v hv => ?_
  obtain ⟨a, b, ha, hb, hv⟩ := fold_numeric rfl hl hr hv
  cases hv
  refine ⟨.int (a ||| b), .int (a &&& b), ?_, ?_, computed_exclusiveOr a b⟩
  · rw [Expr.fold, ha, hb]
    rfl
  · rw [Expr.fold, ha, hb]
    rfl

/-- Arithmetic with two operands. -/
lemma arithmetic_yields (hop : op.isNumeric = true)
    (htl : ctx.inferType l = some .int) (htr : ctx.inferType r = some .int)
    (hl : FoldsTo l' .int) (hr : FoldsTo r' .int)
    (hleft : left.Gives fun x _ => Yields columns l'.fold (x.phrases d))
    (hright : right.Gives fun x _ => Yields columns r'.fold (x.phrases d)) :
    (arithmetic ctx op l r left right).Gives fun x _ =>
      Yields columns (Expr.binary op l' r').fold (x.phrases d) := by
  have hcoalesce : op ≠ .coalesce := by
    rintro rfl
    cases hop
  have htext : some ColumnType.int ≠ some .text := by decide
  refine arithmetic_gives hcoalesce (htl.trans_ne htext) (htr.trans_ne htext) hleft hright
    (fun x y hx hy => grouped_yields hop hl hr hx hy) ?_
  rintro rfl x y x' y' hx hy hx' hy'
  exact exclusiveOr_yields hl hr hx hy hx' hy'

/-- Two texts one after the other. -/
lemma join_yields {x y : Scalar} (hx : Yields columns l'.fold (x.phrases d))
    (hy : Yields columns r'.fold (y.phrases d))
    {rv : Except Error Value} (h : ∀ v, rv = .ok v → ∃ s t, l'.fold = .ok (.text s) ∧
      r'.fold = .ok (.text t) ∧ v = .text (s ++ t)) :
    Yields columns rv ((Scalar.paren (.concat x y)).phrases d) := by
  refine hx.operated hy fun v hv => ?_
  obtain ⟨s, t, hs, ht, rfl⟩ := h v hv
  exact ⟨_, _, hs, ht, operated_concatSign d s t⟩

/-- A connective of two conditions. -/
lemma logical_yields {left right : Emit Cond} (hop : op.isLogical = true) (hl : FoldsTo l' .bool)
    (hr : FoldsTo r' .bool) (hleft : left.Gives fun c _ => Yields columns l'.fold (c.phrases d))
    (hright : right.Gives fun c _ => Yields columns r'.fold (c.phrases d)) :
    (logical op left right).Gives fun c _ =>
      Yields columns (Expr.binary op l' r').fold (c.phrases d) := by
  unfold logical
  refine hleft.bind fun x _ hx => hright.bind fun y _ hy => .pure ?_
  obtain ⟨p, hxp, hp⟩ := hx
  obtain ⟨q, hyq, hq⟩ := hy
  cases op with
  | and =>
    refine Yields.connected (w := "and") hxp hyq fun v hv => ?_
    change some (ofTruth (conjoined (truthOf (p.value? columns)) (truthOf (q.value? columns)))) = _
    obtain ⟨ha, rfl⟩ | ⟨ha, b, hb, rfl⟩ := fold_and hl hr hv
    · rw [hp _ ha, truthOf_stored]
      rfl
    · rw [hp _ ha, hq _ hb, truthOf_stored, truthOf_stored]
      cases b <;> rfl
  | or =>
    refine Yields.connected (w := "or") hxp hyq fun v hv => ?_
    change some (ofTruth (disjoined (truthOf (p.value? columns)) (truthOf (q.value? columns)))) = _
    obtain ⟨ha, rfl⟩ | ⟨ha, b, hb, rfl⟩ := fold_or hl hr hv
    · rw [hp _ ha, truthOf_stored]
      rfl
    · rw [hp _ ha, hq _ hb, truthOf_stored, truthOf_stored]
      cases b <;> rfl
  | _ => cases hop

/-- The members of a list of parameters are the values that these are bound to. -/
lemma listed?_params (members : List Value) :
    listed? columns (scalarListPhrases d (members.map .param)) =
      members.map fun m => some m.stored := by
  induction members with
  | nil => rfl
  | cons m ms ih =>
    cases ms with
    | nil => rfl
    | cons n ns => exact congrArg (some m.stored :: ·) ih

/-- Values of one class are equal in a text if their order says so. -/
lemma operated_equal {a b : Value} (hty : ty.IsBasic) (ha : a.type? = some ty)
    (hb : b.type? = some ty) :
    operated "=" a.stored b.stored = some (Value.bool (a.compare? b == some .eq)).stored := by
  have hop : BinaryOp.equal.isComparison = true := rfl
  refine operated_of_comparison hop hty ha hb ?_
  obtain rfl | rfl | rfl := hty
  · obtain ⟨n, rfl⟩ := Value.int_of_type? ha
    obtain ⟨m, rfl⟩ := Value.int_of_type? hb
    rfl
  · obtain ⟨n, rfl⟩ := Value.bool_of_type? ha
    obtain ⟨m, rfl⟩ := Value.bool_of_type? hb
    rfl
  · obtain ⟨s, rfl⟩ := Value.text_of_type? ha
    obtain ⟨t, rfl⟩ := Value.text_of_type? hb
    rfl

/-- A value of a class is among values of the class if it is a member of their list. -/
lemma amongst_values {members : List Value} {a : Value} (hty : ty.IsBasic)
    (ha : a.type? = some ty) (h : ∀ m ∈ members, m.type? = some ty) :
    amongst a.stored (members.map fun m => some m.stored) = some (Fold.isMember a members) := by
  induction members with
  | nil => rfl
  | cons m ms ih =>
    have hm := h m List.mem_cons_self
    have hms := ih fun n hn => h n (List.mem_cons_of_mem m hn)
    have hequal := operated_equal hty ha hm
    have hmember : Fold.isMember a (m :: ms) =
        ((a.compare? m == some .eq) || Fold.isMember a ms) := by
      rw [Fold.isMember, List.any_cons, Value.isNull_of_type? ha, Bool.false_and, Bool.false_or]
      rw [Fold.isMember, Value.isNull_of_type? ha]
    rw [List.map_cons, amongst, hms, Option.bind_some, hequal, truthOf_stored, hmember]
    cases (a.compare? m == some .eq) <;> cases Fold.isMember a ms <;> rfl

/-- A test for membership in a list. -/
lemma membership_yields {members : List Value} (hty : ty.IsBasic) (he : FoldsTo l' ty)
    (hmembers : ∀ m ∈ members, m.type? = some ty)
    (hleft : left.Gives fun x _ => Yields columns l'.fold (x.phrases d)) :
    (membership left members).Gives fun c _ =>
      Yields columns (Expr.inList l' members).fold (c.phrases d) := by
  have hnotNull : ∀ m ∈ members, m.isNull = false :=
    fun m hm => Value.isNull_of_type? (hmembers m hm)
  have hpresent : Value.present members = members := by
    rw [Value.present, List.filter_eq_self]
    intro m hm
    rw [hnotNull m hm]
    rfl
  have hnull : members.any Value.isNull = false := by
    rw [List.any_eq_false]
    intro m hm
    rw [hnotNull m hm]
    exact Bool.false_ne_true
  -- The members are of the class of the operand, so there is no null among them to test for.
  unfold membership
  simp only [hpresent, hnull]
  cases members with
  | nil =>
    refine .pure ⟨_, rfl, fun v hv => ?_⟩
    obtain ⟨a, -, rfl⟩ := fold_inList hv
    rfl
  | cons m ms =>
    refine hleft.bind fun x _ hx => (literals_params hnotNull).bind fun xs _ hxs => ?_
    refine .pure ?_
    obtain ⟨p, hxp, hp⟩ := hx
    refine Yields.connected (w := "IN") hxp rfl fun v hv => ?_
    obtain ⟨a, ha, rfl⟩ := fold_inList hv
    change (p.value? columns).map (fun v => ofTruth (amongst v (listed? columns _))) = _
    rw [hp a ha, hxs, listed?_params, Option.map_some, amongst_values hty (he a ha) hmembers]
    rfl

end Operators

section Expressions

variable {d : Dialect} {q : Query} {row : List Value} {e : Expr} {ty : ColumnType}

/-- The values of the columns of a row, by the names of the columns. -/
def valuesOn (t : Table) (row : List Value) (name : String) : Option Value :=
  (t.columnByName? name).bind fun c => row[c.1]?

/-- The storage class of a column of the query itself. -/
lemma columnType_top {ref : ColumnRef} {c : Column} (hsource : ref.source = q.source)
    (hc : q.table.column? ref.column = some c) :
    (Context.top d q).columnType ref = some c.ty := by
  rw [Context.columnType, scope?_top hsource]
  simp [Scope.of, hc]

/-- The name of a column of the query itself. -/
lemma columnName_own {ref : ColumnRef} {c : Column} (hsource : ref.source = q.source)
    (hc : q.table.column? ref.column = some c) :
    (Context.top d q).columnName ref = .ok ⟨none, c.name, ref.source⟩ :=
  Context.columnName_of_column? (scope?_top hsource) hc

/-- The value of a row under the name of a column. -/
lemma valuesOn_name {t : Table} {i : Nat} {c : Column} {v : Value} (hc : t.column? i = some c)
    (hv : row[i]? = some v) : valuesOn t row c.name = some v := by
  rw [valuesOn, Table.columnByName?_name hc, Option.bind_some, hv]

/-- A column of the query's own row is written by its name alone. -/
lemma column_gives {P : Scalar → Prop} {ref : ColumnRef} {c : Column}
    (hsource : ref.source = q.source) (hc : q.table.column? ref.column = some c)
    (h : P (.column ⟨none, c.name, ref.source⟩)) :
    Emit.Gives (do return Scalar.column (← Emit.lift ((Context.top d q).columnName ref)))
      fun x _ => P x := by
  rw [columnName_own hsource hc]
  exact .lift_bind fun name hname => by
    cases hname
    exact .pure h

/-- A column has the value of the row. -/
lemma column_yields {ref : ColumnRef} {c : Column} (hrow : q.table.Holds row)
    (hsource : ref.source = q.source) (hc : q.table.column? ref.column = some c) :
    Emit.Gives (do return Scalar.column (← Emit.lift ((Context.top d q).columnName ref)))
      fun x _ =>
        Yields (valuesOn q.table row) (Expr.onRow row (.column ref)).fold (x.phrases d) := by
  refine column_gives hsource hc ⟨_, rfl, fun v hv => ?_⟩
  obtain ⟨w, hw, -⟩ := hrow ref.column c hc
  rw [Expr.onRow, hw] at hv
  cases hv
  change (valuesOn q.table row c.name).map Value.stored = _
  rw [valuesOn_name hc hw]
  rfl

/-- Both forms of an expression have the value that the expression folds to. -/
theorem formsOf_agree (hrow : q.table.Holds row) (h : e.HasType q.table q.source ty) :
    (formsOf e (Context.top d q)).Agree d (valuesOn q.table row) (e.onRow row).fold := by
  have hinfer : ∀ {e : Expr} {ty : ColumnType}, e.HasType q.table q.source ty →
      (Context.top d q).inferType e = some ty :=
    fun h => h.inferType fun _ _ hsource hc => columnType_top hsource hc
  have hfolds : ∀ {e : Expr} {ty : ColumnType}, e.HasType q.table q.source ty →
      FoldsTo (e.onRow row) ty := fun h => h.type?_of_fold hrow
  -- On the derivation of the type.  What is inferred and what is folded to, `hinfer` and `hfolds`,
  -- are needed of each operand, so both are stated of every expression before.
  induction h with
  | value hty hv =>
    exact Forms.ofConstant_agree (hfolds (.value hty hv))
  | column hty hsource hc =>
    have htype := Expr.HasType.column hty hsource hc
    exact Forms.ofScalar_agree (hinfer htype) (hfolds htype) (column_yields hrow hsource hc)
  | @not e he ih =>
    have htype := Expr.HasType.not he
    refine Forms.unlessConstant_agree (hfolds htype) ?_
    refine Forms.ofCondition_agree (hfolds htype) (ih.condition.bind fun c _ hc => .pure ?_)
    exact hc.negated fun v hv => fold_not (hfolds he) hv
  | @sign op e hop he ih =>
    have htype := Expr.HasType.sign hop he
    refine Forms.unlessConstant_agree (hfolds htype) ?_
    cases op with
    | not => exact absurd rfl hop
    | negate | bitwiseNot =>
      refine Forms.ofScalar_agree (hinfer htype) (hfolds htype) ?_
      exact ih.scalar.bind fun x _ hx => .pure (sign_yields hop (hfolds he) hx)
  -- Two conditions are tied without a test for null; every other operator needs the values.
  | @logical op l r hop hl hr ihl ihr =>
    have htype := Expr.HasType.logical hop hl hr
    refine Forms.unlessConstant_agree (hfolds htype) ?_
    rw [if_pos hop]
    exact Forms.ofCondition_agree (hfolds htype)
      (logical_yields hop (hfolds hl) (hfolds hr) ihl.condition ihr.condition)
  | @comparison op l r ty hop hl hr ihl ihr =>
    have htype := Expr.HasType.comparison hop hl hr
    refine Forms.unlessConstant_agree (hfolds htype) ?_
    rw [if_neg (BinaryOp.not_isLogical_of_isComparison hop), if_pos hop]
    exact Forms.ofCondition_agree (hfolds htype)
      (comparison_yields hop hl.isBasic (hfolds hl) (hfolds hr) ihl.scalar ihr.scalar)
  | @numeric op l r hop hl hr ihl ihr =>
    have htype := Expr.HasType.numeric hop hl hr
    refine Forms.unlessConstant_agree (hfolds htype) ?_
    have hother : ¬ op.isLogical = true ∧ ¬ op.isComparison = true := by
      cases op with
      | add | subtract | multiply | divide | modulo | bitwiseAnd | bitwiseOr | exclusiveOr =>
        exact ⟨nofun, nofun⟩
      | _ => cases hop
    rw [if_neg hother.1, if_neg hother.2]
    exact Forms.ofScalar_agree (hinfer htype) (hfolds htype)
      (arithmetic_yields hop (hinfer hl) (hinfer hr) (hfolds hl) (hfolds hr) ihl.scalar ihr.scalar)
  | @join l r hl hr ihl ihr =>
    have htype := Expr.HasType.join hl hr
    refine Forms.unlessConstant_agree (hfolds htype) ?_
    refine Forms.ofScalar_agree (hinfer htype) (hfolds htype) ?_
    unfold arithmetic
    refine ihl.scalar.bind fun x _ hx => ihr.scalar.bind fun y _ hy => ?_
    rw [if_neg nofun, if_pos ⟨rfl, .inl (hinfer hl)⟩]
    exact .pure (join_yields hx hy fun v hv => fold_join (hfolds hl) (hfolds hr) hv)
  | @concat l r hl hr ihl ihr =>
    have htype := Expr.HasType.concat hl hr
    refine Forms.unlessConstant_agree (hfolds htype) ?_
    refine Forms.ofScalar_agree (hinfer htype) (hfolds htype) ?_
    refine ihl.scalar.bind fun x _ hx => ihr.scalar.bind fun y _ hy => .pure ?_
    exact join_yields hx hy fun v hv => fold_concat (hfolds hl) (hfolds hr) hv
  | @coalesce l r ty hl hr ihl ihr =>
    have htype := Expr.HasType.coalesce hl hr
    refine Forms.unlessConstant_agree (hfolds htype) ?_
    refine Forms.ofScalar_agree (hinfer htype) (hfolds htype) ?_
    unfold arithmetic
    refine ihl.scalar.bind fun x _ hx => ihr.scalar.bind fun y _ hy => ?_
    rw [if_pos rfl]
    obtain ⟨p, hp, -⟩ := hy
    exact .pure (hx.coalesced ⟨p, hp⟩ (hfolds hl) fun v hv => fold_coalesce (hfolds hl) hv)
  | @conditional test yes no ty ht hy hn iht ihy ihn =>
    have htype := Expr.HasType.conditional ht hy hn
    refine Forms.unlessConstant_agree (hfolds htype) ?_
    refine Forms.ofScalar_agree (hinfer htype) (hfolds htype) ?_
    refine iht.condition.bind fun c _ hc => ihy.scalar.bind fun y _ hy => ?_
    refine ihn.scalar.bind fun n _ hn => .pure ?_
    exact hc.chosen hy hn fun v hv => fold_conditional hv
  | @inList e members ty he hmembers ih =>
    have htype := Expr.HasType.inList he hmembers
    refine Forms.unlessConstant_agree (hfolds htype) ?_
    exact Forms.ofCondition_agree (hfolds htype)
      (membership_yields he.isBasic (hfolds he) hmembers ih.scalar)

/-- The fragment of an expression is a phrase with the value that the expression folds to. -/
lemma ofExpr_yields (hrow : q.table.Holds row) (h : e.HasType q.table q.source ty) :
    (ofExpr d q e).Gives fun f _ =>
      Yields (valuesOn q.table row) (e.onRow row).fold (f.phrases d) := by
  have hforms := formsOf_agree (d := d) hrow h
  unfold ofExpr
  split
  case isTrue => exact hforms.condition.bind fun c _ hc => .pure hc
  case isFalse => exact hforms.scalar.bind fun x _ hx => .pure hx

/-- The value of the text of a statement on a row, with the parameters of the statement. -/
def Statement.value? (d : Dialect) (columns : String → Option Value) (st : Statement) :
    Option Value :=
  (st.phrases? d).bind (Sql.value? columns)

/-- If an expression of a class is compiled to a statement, and if it folds to a value when the
values of a row without null stand for its columns, then the text of the statement has that value on
the row. -/
theorem value_of_compile {st : Statement} {v : Value} (hrow : q.table.Holds row)
    (hty : e.HasType q.table q.source ty) (h : e.compile d q = .ok st)
    (hv : (e.onRow row).fold = .ok v) :
    st.value? d (valuesOn q.table row) = some v.stored := by
  obtain ⟨f, hf, -, hread⟩ := Statement.phrases?_of h (ofExpr_carries (admits_true _))
  obtain ⟨p, hp, hvalue⟩ := ofExpr_yields hrow hty f hf
  have hsingle : Sql.value? (valuesOn q.table row) [p] = p.value? (valuesOn q.table row) := rfl
  rw [Statement.value?, hread, hp, Option.bind_some, hsingle, hvalue v hv]

/-- A table of gauges and whether they are open. -/
def gaugeTable : Table :=
  .of "Gauge"
    [⟨"reading", "Reading", .int, false, true⟩, ⟨"open", "Open", .bool, false, false⟩] (by decide)

/-- Whether a gauge is open and its reading with two bits turned over is more than five. -/
def gaugeTest : Expr :=
  .binary .and
    (.binary .lessThan (.value (.int 5))
      (.binary .exclusiveOr (.column ⟨⟨0⟩, 0⟩) (.value (.int 3))))
    (.column ⟨⟨0⟩, 1⟩)

/-- The statement of the test of gauges. -/
def gaugeStatement : Statement where
  text := "(((([reading] | $p1) - ([reading] & $p2)) > $p3) and ([open] = 1))"
  parameters := [.int 3, .int 3, .int 5]

set_option maxRecDepth 8000 in
/-- The test of gauges is true of an open one with the reading nine. -/
theorem value_of_compile_gauge :
    gaugeTable.Holds [.int 9, .bool true] ∧
      gaugeTest.HasType gaugeTable ⟨0⟩ .bool ∧
      gaugeTest.compile .sqlite (Query.all gaugeTable ⟨0⟩) = .ok gaugeStatement ∧
      (gaugeTest.onRow [.int 9, .bool true]).fold = .ok (.bool true) ∧
      gaugeStatement.value? .sqlite (valuesOn gaugeTable [.int 9, .bool true]) =
        some (.int 1) := by
  have hrow : gaugeTable.Holds [.int 9, .bool true] := by
    intro i c hc
    match i, hc with
    | 0, hc =>
      cases hc
      exact ⟨_, rfl, rfl⟩
    | 1, hc =>
      cases hc
      exact ⟨_, rfl, rfl⟩
  have hfive : Expr.HasType gaugeTable ⟨0⟩ (.value (.int 5)) .int := .value (.inl rfl) rfl
  have hthree : Expr.HasType gaugeTable ⟨0⟩ (.value (.int 3)) .int := .value (.inl rfl) rfl
  have hreading : Expr.HasType gaugeTable ⟨0⟩ (.column ⟨⟨0⟩, 0⟩) .int :=
    .column (c := ⟨"reading", "Reading", .int, false, true⟩) (.inl rfl) rfl rfl
  have hopen : Expr.HasType gaugeTable ⟨0⟩ (.column ⟨⟨0⟩, 1⟩) .bool :=
    .column (c := ⟨"open", "Open", .bool, false, false⟩) (.inr (.inl rfl)) rfl rfl
  have htype : gaugeTest.HasType gaugeTable ⟨0⟩ .bool :=
    .logical rfl (.comparison rfl hfive (.numeric rfl hreading hthree)) hopen
  have hcompile : gaugeTest.compile .sqlite (Query.all gaugeTable ⟨0⟩) = .ok gaugeStatement := by
    rfl
  have hfold : (gaugeTest.onRow [.int 9, .bool true]).fold = .ok (.bool true) := rfl
  exact ⟨hrow, htype, hcompile, hfold,
    value_of_compile (q := Query.all gaugeTable ⟨0⟩) hrow htype hcompile hfold⟩

end Expressions

end TableQuery.Sql
