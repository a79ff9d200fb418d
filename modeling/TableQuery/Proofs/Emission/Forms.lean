import TableQuery.Proofs.Emission.Call
import TableQuery.Sql.Forms

/-!
# The trees of operators

Both forms of an operator are written as they should be and bind what their steps have bound, if
this holds of the forms of its operands (`Forms.Carry`).  There is one lemma for each way of
building a form.
-/

namespace TableQuery.Sql

/-- The tables that can be read from a place, innermost first. -/
def Context.froms (ctx : Context) : List From :=
  ctx.scopes.map fun s => ⟨s.table.name, s.source⟩

variable {ok : List From → ColumnName → Prop}

/-- Both forms of an expression are written as they should be and bind what their steps have
bound. -/
def Forms.Carry (ok : List From → ColumnName → Prop) (ctx : Context) (f : Forms) : Prop :=
  f.condition.Gives (Cond.Carries ok ctx.froms ctx.dialect) ∧
    f.scalar.Gives (Scalar.Carries ok ctx.froms ctx.dialect)

section Forms

variable {ctx : Context} {chain : List From} {d : Dialect}

/-- The forms of a condition. -/
lemma Forms.ofCondition_carry {condition : Emit Cond}
    (h : condition.Gives (Cond.Carries ok ctx.froms ctx.dialect)) :
    (Forms.ofCondition condition).Carry ok ctx := by
  refine ⟨h, ?_⟩
  refine h.bind ?_
  rintro c us ⟨hcs, hcw, hcb⟩
  refine .pure ⟨rfl, ⟨⟨Cond.isClause_of_isSingle hcs, hcw⟩, trivial, trivial⟩, ?_⟩
  simp [chosen, Scalar.pieces, hcb]

/-- The forms of a value. -/
lemma Forms.ofScalar_carry {e : Expr} {scalar : Emit Scalar}
    (h : scalar.Gives (Scalar.Carries ok ctx.froms ctx.dialect)) :
    (Forms.ofScalar ctx e scalar).Carry ok ctx := by
  refine ⟨?_, h⟩
  unfold Forms.ofScalar
  dsimp only
  split
  · exact .fail
  · refine h.map fun x us hx => ?_
    simpa using compared_carries rfl hx.single ⟨rfl, truth_fits true⟩

/-- A truth value as a condition. -/
lemma truth_carries (b : Bool) : (truth b).Carries ok chain d [] :=
  ⟨rfl, ⟨rfl, ⟨rfl, trivial⟩, rfl, trivial⟩, by simp [truth, Cond.pieces, Scalar.pieces]⟩

/-- The forms of a constant. -/
lemma Forms.ofConstant_carry (e : Expr) : (Forms.ofConstant e).Carry ok ctx := by
  constructor
  case left =>
    refine .lift_bind fun v _ => ?_
    cases v with
    | bool b => exact .pure (truth_carries b)
    | _ => exact .fail
  case right =>
    refine .lift_bind fun v _ => ?_
    exact literal_carries v

/-- The forms of what may be constant. -/
lemma Forms.unlessConstant_carry {e : Expr} {forms : Forms} (h : forms.Carry ok ctx) :
    (Forms.unlessConstant e forms).Carry ok ctx := by
  unfold Forms.unlessConstant
  split
  · exact Forms.ofConstant_carry e
  · exact h

/-- A comparison with a constant. -/
lemma againstConstant_carries {op : BinaryOp} {operand : Emit Scalar} {e : Expr}
    (hop : op.isComparison = true) (hx : operand.Gives (Scalar.Carries ok chain d)) :
    (againstConstant op operand e).Gives (Cond.Carries ok chain d) := by
  unfold againstConstant
  refine .lift_bind fun v _ => ?_
  split
  case isTrue =>
    split
    · exact hx.map fun _ _ hx =>
        ⟨rfl, ⟨hx.single.1, hx.fits.1⟩, by simp [Cond.pieces, hx.fits.2]⟩
    · exact hx.map fun _ _ hx =>
        ⟨rfl, ⟨hx.single.1, hx.fits.1⟩, by simp [Cond.pieces, hx.fits.2]⟩
    · exact .fail
  case isFalse =>
    have hliteral : (literal v).Gives (Scalar.Carries ok chain d) := literal_carries v
    exact hx.map₂ hliteral fun _ _ _ _ hx hy => compared_carries hop hx.single hy.single

/-- A comparison of two operands. -/
lemma comparison_carries {op : BinaryOp} {l r : Expr} {left right : Emit Scalar}
    (hop : op.isComparison = true) (hl : left.Gives (Scalar.Carries ok chain d))
    (hr : right.Gives (Scalar.Carries ok chain d)) :
    (comparison op l r left right).Gives (Cond.Carries ok chain d) := by
  unfold comparison
  split
  · exact againstConstant_carries hop hl
  · exact againstConstant_carries (op.isComparison_commute.trans hop) hr
  · exact hl.map₂ hr fun _ _ _ _ hx hy => compared_carries hop hx.single hy.single

/-- A connective of two conditions. -/
lemma logical_carries {op : BinaryOp} {left right : Emit Cond}
    (hl : left.Gives (Cond.Carries ok chain d)) (hr : right.Gives (Cond.Carries ok chain d)) :
    (logical op left right).Gives (Cond.Carries ok chain d) := by
  unfold logical
  refine hl.bind ?_
  rintro x us ⟨hxs, hxw, hxb⟩
  refine hr.bind ?_
  rintro y ws ⟨hys, hyw, hyb⟩
  refine .pure ?_
  split
  · refine ⟨rfl, ⟨⟨hxs, hxw⟩, hys, hyw⟩, ?_⟩
    simp [Cond.pieces, hxb, hyb]
  · refine ⟨rfl, ⟨⟨Cond.isClause_of_isSingle hxs, hxw⟩, Cond.isClause_of_isSingle hys, hyw⟩, ?_⟩
    simp [Cond.pieces, hxb, hyb]

/-- Arithmetic with two operands. -/
lemma arithmetic_carries {op : BinaryOp} {l r : Expr} {left right : Emit Scalar}
    (hlogical : op.isLogical = false) (hcomparison : op.isComparison = false)
    (hl : left.Gives (Scalar.Carries ok chain d)) (hr : right.Gives (Scalar.Carries ok chain d)) :
    (arithmetic ctx op l r left right).Gives (Scalar.Carries ok chain d) := by
  unfold arithmetic
  refine hl.bind fun x us hx => hr.bind fun y vs hy => ?_
  split
  case isTrue => exact .pure (by simpa using call₂_carries .coalesce hx.fits hy.fits)
  case isFalse hcoalesce =>
    split
    case isTrue => exact .pure (by simpa using concat_carries hx.single hy.single)
    case isFalse =>
      split
      case isTrue =>
        refine hl.map₂ hr fun x' us' y' vs' hx' hy' => ?_
        have hor : (grouped .bitwiseOr x y).Carries ok chain d (us ++ vs) :=
          grouped_carries rfl hx.single hy.single
        have hand : (grouped .bitwiseAnd x' y').Carries ok chain d (us' ++ vs') :=
          grouped_carries rfl hx'.single hy'.single
        have hall : (grouped .subtract (grouped .bitwiseOr x y)
            (grouped .bitwiseAnd x' y')).Carries ok chain d ((us ++ vs) ++ (us' ++ vs')) :=
          grouped_carries rfl hor.single hand.single
        simpa using hall
      case isFalse =>
        have hnumeric : op.isNumeric = true := by
          cases op with
          | and | or => cases hlogical
          | coalesce => exact absurd rfl hcoalesce
          | add | subtract | multiply | divide | modulo => rfl
          | bitwiseAnd | bitwiseOr | exclusiveOr => rfl
          | _ => cases hcomparison
        exact .pure (by simpa using grouped_carries hnumeric hx.single hy.single)

/-- Literals bind the values that they stand for, but for nulls. -/
lemma literals_fit (vs : List Value) : (literals vs).Gives (ScalarsFit ok chain d) := by
  induction vs with
  | nil => exact .done .nil
  | cons v vs ih =>
    have hliteral : (literal v).Gives (Scalar.Carries ok chain d) := literal_carries v
    exact hliteral.map₂ ih fun _ _ _ _ hx hxs => hxs.cons hx.fits

/-- A test for membership in a list. -/
lemma membership_carries {operand : Emit Scalar} {members : List Value}
    (hx : operand.Gives (Scalar.Carries ok chain d)) :
    (membership operand members).Gives (Cond.Carries ok chain d) := by
  have hliterals : ∀ vs, (literals vs).Gives (ScalarsFit ok chain d) := literals_fit
  unfold membership
  dsimp only
  split
  case h_1 => exact .pure (truth_carries false)
  case h_2 =>
    exact hx.map fun _ _ hx =>
      ⟨rfl, ⟨hx.single.1, hx.fits.1⟩, by simp [Cond.pieces, hx.fits.2]⟩
  case h_3 =>
    refine hx.map₂ (hliterals _) ?_
    rintro x us xs vs hx ⟨hxsw, hxsb⟩
    refine ⟨rfl, ⟨⟨hx.single.1, hx.fits.1⟩, hxsw⟩, ?_⟩
    simp [Cond.pieces, hx.fits.2, hxsb]
  case h_4 =>
    refine hx.bind fun x us hx' => (hliterals _).map₂ hx ?_
    rintro xs vs y ws ⟨hxsw, hxsb⟩ hy
    refine ⟨rfl, ⟨⟨rfl, ⟨hx'.single.1, hx'.fits.1⟩, hxsw⟩, rfl, hy.single.1, hy.fits.1⟩, ?_⟩
    simp [Cond.pieces, hx'.fits.2, hxsb, hy.fits.2]

end Forms

end TableQuery.Sql
