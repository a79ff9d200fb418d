import TableQuery.Proofs.Emission.Gives
import TableQuery.Proofs.Emission.Shapes
import TableQuery.Proofs.Text.Piece
import TableQuery.Proofs.Tree.Written

/-!
# The trees of calls

Every form that a call takes keeps what its arguments have: if the arguments are written as they
should be, as single phrases, and bind what their steps have bound, then so does the call
(`Call.scalar_carries`, `Call.condition_carries`).  Where a form needs an argument several times,
the step of the argument is taken as often, so that each occurrence binds its own values.
-/

namespace TableQuery.Sql

-- Most lemmas use the equations of the printers and of what is written: they are made once, here.
attribute [local simp] Scalar.pieces Cond.pieces Scalar.Written scalarsWritten Cond.Written

variable {ok : List From → ColumnName → Prop} {chain : List From} {d : Dialect}

/-- A value that can stand anywhere is written as it should be and binds just these values. -/
def Scalar.Carries (ok : List From → ColumnName → Prop) (chain : List From) (d : Dialect)
    (x : Scalar) (vs : List Value) : Prop :=
  x.isPrimary = true ∧ x.Written ok chain ∧ boundValues (x.pieces d) = vs

/-- A condition that can stand anywhere is written as it should be and binds just these values. -/
def Cond.Carries (ok : List From → ColumnName → Prop) (chain : List From) (d : Dialect)
    (c : Cond) (vs : List Value) : Prop :=
  c.isSingle = true ∧ c.Written ok chain ∧ boundValues (c.pieces d) = vs

/-- A literal binds the value that it stands for, unless it is null. -/
lemma literal_carries (v : Value) : (literal v).Gives (Scalar.Carries ok chain d) := by
  intro x hx
  unfold literal at hx ⊢
  cases hv : v.isNull with
  | true =>
    simp only [hv, if_true] at hx ⊢
    cases hx
    exact ⟨rfl, trivial, rfl⟩
  | false =>
    simp only [hv] at hx ⊢
    cases hx
    exact ⟨rfl, hv, rfl⟩

section Rules

variable {x y z l r yes no : Scalar} {us vs ws as : List Value} {op : BinaryOp} {s : String}

/-- A value is written as it should be and binds just these values, single phrase or not. -/
def Scalar.Fits (ok : List From → ColumnName → Prop) (chain : List From) (d : Dialect)
    (x : Scalar) (vs : List Value) : Prop :=
  x.Written ok chain ∧ boundValues (x.pieces d) = vs

/-- Values with commas between them are written as they should be and bind just these values. -/
def ScalarsFit (ok : List From → ColumnName → Prop) (chain : List From) (d : Dialect)
    (xs : List Scalar) (vs : List Value) : Prop :=
  scalarsWritten ok chain xs ∧ boundValues (scalarListPieces d xs) = vs

/-- What can stand anywhere can stand between commas. -/
lemma Scalar.Carries.fits (h : x.Carries ok chain d vs) : x.Fits ok chain d vs := h.2

/-- What can stand anywhere can be an operand. -/
lemma Scalar.Carries.single (h : x.Carries ok chain d vs) :
    x.isSingle = true ∧ x.Fits ok chain d vs :=
  ⟨Scalar.isSingle_of_isPrimary h.1, h.2⟩

/-- A number binds nothing. -/
lemma number_fits (n : Nat) : (Scalar.number n).Fits ok chain d [] := ⟨trivial, rfl⟩

/-- A truth value binds nothing. -/
lemma truth_fits (b : Bool) : (Scalar.truth b).Fits ok chain d [] := ⟨trivial, rfl⟩

/-- A text without quotes binds nothing. -/
lemma text_fits (hs : '\'' ∉ s.toList) : (Scalar.text s).Fits ok chain d [] := ⟨hs, rfl⟩

/-- A numeral binds nothing. -/
@[simp] lemma boundValues_numeral (n : Nat) (ps : List Piece) :
    boundValues (numeral n :: ps) = boundValues ps := rfl

/-- No values bind nothing. -/
@[simp] lemma boundValues_scalarList_nil : boundValues (scalarListPieces d []) = [] := rfl

/-- The values that a list of values binds are those of its first member and those of the others. -/
@[simp] lemma boundValues_scalarList (x : Scalar) (xs : List Scalar) :
    boundValues (scalarListPieces d (x :: xs)) =
      boundValues (x.pieces d) ++ boundValues (scalarListPieces d xs) := by
  cases xs with
  | nil => simp [scalarListPieces]
  | cons y ys => simp [scalarListPieces]

/-- There may be no values. -/
lemma ScalarsFit.nil : ScalarsFit ok chain d [] [] := ⟨trivial, rfl⟩

/-- One more value may come before others. -/
lemma ScalarsFit.cons {xs : List Scalar} (hx : x.Fits ok chain d us)
    (hxs : ScalarsFit ok chain d xs vs) : ScalarsFit ok chain d (x :: xs) (us ++ vs) :=
  ⟨⟨hx.1, hxs.1⟩, by simp [hx.2, hxs.2]⟩

/-- A call can stand anywhere, with whatever arguments. -/
lemma ScalarsFit.call {xs : List Scalar} (f : Routine) (h : ScalarsFit ok chain d xs vs) :
    (Scalar.call f xs).Carries ok chain d vs :=
  ⟨rfl, h.1, by simp [h.2]⟩

/-- A call with one argument. -/
lemma call₁_carries (f : Routine) (hx : x.Fits ok chain d us) :
    (Scalar.call f [x]).Carries ok chain d us := by
  simpa using (ScalarsFit.nil.cons hx).call f

/-- A call with two arguments. -/
lemma call₂_carries (f : Routine) (hx : x.Fits ok chain d us) (hy : y.Fits ok chain d vs) :
    (Scalar.call f [x, y]).Carries ok chain d (us ++ vs) := by
  simpa using ((ScalarsFit.nil.cons hy).cons hx).call f

/-- A call with three arguments. -/
lemma call₃_carries (f : Routine) (hx : x.Fits ok chain d us) (hy : y.Fits ok chain d vs)
    (hz : z.Fits ok chain d ws) :
    (Scalar.call f [x, y, z]).Carries ok chain d (us ++ (vs ++ ws)) := by
  simpa using (((ScalarsFit.nil.cons hz).cons hy).cons hx).call f

/-- A conversion can stand anywhere. -/
lemma cast_carries (ty : TypeName) (hx : x.Fits ok chain d us) :
    (Scalar.cast x ty).Carries ok chain d us :=
  ⟨rfl, hx.1, by simp [hx.2]⟩

/-- A negation of a single phrase. -/
lemma negate_fits (hx : x.isSingle = true ∧ x.Fits ok chain d us) :
    (Scalar.negate x).Fits ok chain d us :=
  ⟨⟨hx.1, hx.2.1⟩, by simp [hx.2.2]⟩

/-- A numeric operator between single phrases. -/
lemma operator_fits (hop : op.isNumeric = true) (hx : x.isSingle = true ∧ x.Fits ok chain d us)
    (hy : y.isSingle = true ∧ y.Fits ok chain d vs) :
    (Scalar.operator op x y).Fits ok chain d (us ++ vs) :=
  ⟨⟨hop, ⟨.inl hx.1, hx.2.1⟩, hy.1, hy.2.1⟩, by simp [hx.2.2, hy.2.2]⟩

/-- What is in parentheses can stand anywhere. -/
lemma paren_carries (hx : x.Fits ok chain d us) : (Scalar.paren x).Carries ok chain d us :=
  ⟨rfl, hx.1, by simp [hx.2]⟩

/-- A numeric operator in parentheses. -/
lemma grouped_carries (hop : op.isNumeric = true)
    (hx : x.isSingle = true ∧ x.Fits ok chain d us)
    (hy : y.isSingle = true ∧ y.Fits ok chain d vs) :
    (grouped op x y).Carries ok chain d (us ++ vs) :=
  paren_carries (operator_fits hop hx hy)

/-- A concatenation in parentheses. -/
lemma concat_carries (hx : x.isSingle = true ∧ x.Fits ok chain d us)
    (hy : y.isSingle = true ∧ y.Fits ok chain d vs) :
    (Scalar.paren (.concat x y)).Carries ok chain d (us ++ vs) :=
  ⟨rfl, ⟨⟨hx.1, hx.2.1⟩, hy.1, hy.2.1⟩, by simp [hx.2.2, hy.2.2]⟩

/-- A comparison in parentheses. -/
lemma compared_carries (hop : op.isComparison = true)
    (hx : x.isSingle = true ∧ x.Fits ok chain d us)
    (hy : y.isSingle = true ∧ y.Fits ok chain d vs) :
    (compared op x y).Carries ok chain d (us ++ vs) :=
  ⟨rfl, ⟨hop, ⟨hx.1, hx.2.1⟩, hy.1, hy.2.1⟩, by simp [compared, hx.2.2, hy.2.2]⟩

/-- The choice between two values by a comparison. -/
lemma chosen_carries (hop : op.isComparison = true)
    (hl : l.isSingle = true ∧ l.Fits ok chain d us)
    (hr : r.isSingle = true ∧ r.Fits ok chain d vs) (hyes : yes.Fits ok chain d ws)
    (hno : no.Fits ok chain d as) :
    (chosen (.compare op l r) yes no).Carries ok chain d (us ++ (vs ++ (ws ++ as))) :=
  ⟨rfl, ⟨⟨rfl, hop, ⟨hl.1, hl.2.1⟩, hr.1, hr.2.1⟩, hyes.1, hno.1⟩,
    by simp [chosen, hl.2.2, hr.2.2, hyes.2, hno.2]⟩

end Rules

namespace Call

variable {x needle : Emit Scalar} {func : Func}

/-- To look for a constant text binds nothing. -/
lemma constantText?_gives {e : Expr} : (constantText? func e).Gives fun _ vs => vs = [] := by
  unfold constantText?
  split
  case isTrue =>
    refine .lift_bind fun v _ => ?_
    cases v with
    | text s => exact .pure rfl
    | _ => exact .fail
  case isFalse => exact .pure rfl

/-- A constant text is found. -/
lemma constantText?_constant {e : Expr} {s : String} (hconst : e.isConst = true)
    (hfold : e.fold = .ok (.text s)) : (constantText? func e).result = .ok (some s) := by
  rw [constantText?, if_pos hconst, constant, hfold]
  rfl

/-- An operand that is computed is no constant text. -/
lemma constantText?_computed {e : Expr} (hconst : e.isConst = false) :
    (constantText? func e).result = .ok none := by
  rw [constantText?, hconst]
  rfl

/-- The test that a text contains another. -/
lemma contains_carries (hx : x.Gives (Scalar.Carries ok chain d))
    (hn : needle.Gives (Scalar.Carries ok chain d)) :
    (contains d x needle).Gives (Cond.Carries ok chain d) := by
  have hfound : ∀ {f : Routine} {a b : Scalar} {us vs : List Value}, a.Carries ok chain d us →
      b.Carries ok chain d vs →
        (compared .greaterThan (.call f [a, b]) (.number 0)).Carries ok chain d (us ++ vs) := by
    intro f a b us vs ha hb
    simpa using compared_carries rfl (call₂_carries f ha.fits hb.fits).single ⟨rfl, number_fits 0⟩
  unfold contains
  split
  · exact hn.map₂ hx fun _ _ _ _ hn hx => hfound hn hx
  · exact hx.map₂ hn fun _ _ _ _ hx hn => hfound hx hn

/-- The place of a text in another. -/
lemma indexOf_carries (hx : x.Gives (Scalar.Carries ok chain d))
    (hn : needle.Gives (Scalar.Carries ok chain d)) :
    (indexOf d x needle).Gives (Scalar.Carries ok chain d) := by
  have hplace : ∀ {f : Routine} {a b : Scalar} {us vs : List Value}, a.Carries ok chain d us →
      b.Carries ok chain d vs →
        (grouped .subtract (.call f [a, b]) (.number 1)).Carries ok chain d (us ++ vs) := by
    intro f a b us vs ha hb
    simpa using grouped_carries rfl (call₂_carries f ha.fits hb.fits).single ⟨rfl, number_fits 1⟩
  unfold indexOf
  split
  · exact hn.map₂ hx fun _ _ _ _ hn hx => hplace hn hx
  · exact hx.map₂ hn fun _ _ _ _ hx hn => hplace hx hn

section Patterns

variable {x pattern : Argument}

/-- The test that a text begins with another. -/
lemma startsWith_carries (hx : x.scalar.Gives (Scalar.Carries ok chain d))
    (hp : pattern.scalar.Gives (Scalar.Carries ok chain d)) :
    (startsWith func x pattern).Gives (Cond.Carries ok chain d) := by
  unfold startsWith
  refine constantText?_gives.bind ?_
  rintro o _ rfl
  cases o with
  | some s =>
    have hliteral : (literal (.text s)).Gives (Scalar.Carries ok chain d) := literal_carries _
    refine hx.map₂ hliteral fun _ us _ vs hx ht => ?_
    have hstart := call₃_carries .substring hx.fits (number_fits 1) (number_fits s.length)
    simpa using compared_carries rfl hstart.single ht.single
  | none =>
    refine hx.bind fun _ us hx => hp.map₂ hp fun _ vs _ ws hn ht => ?_
    have hlength := call₁_carries .length hn.fits
    have hstart := call₃_carries .substring hx.fits (number_fits 1) hlength.fits
    simpa using compared_carries rfl hstart.single ht.single

/-- The test that a text ends with another. -/
lemma endsWith_carries (hx : x.scalar.Gives (Scalar.Carries ok chain d))
    (hp : pattern.scalar.Gives (Scalar.Carries ok chain d)) :
    (endsWith d func x pattern).Gives (Cond.Carries ok chain d) := by
  unfold endsWith
  refine constantText?_gives.bind ?_
  rintro o _ rfl
  cases o with
  | some s =>
    dsimp only
    split
    case isTrue => exact .pure (compared_carries rfl ⟨rfl, number_fits 1⟩ ⟨rfl, number_fits 1⟩)
    case isFalse =>
      have hliteral : (literal (.text s)).Gives (Scalar.Carries ok chain d) := literal_carries _
      refine hx.map₂ hliteral fun _ us _ vs hx ht => ?_
      have hlength : (Scalar.number s.length).Fits ok chain d [] := number_fits _
      cases d with
      | sqlite =>
        have hend := call₂_carries .substring hx.fits (negate_fits ⟨rfl, hlength⟩)
        simpa using compared_carries rfl hend.single ht.single
      | _ =>
        have hend := call₂_carries .suffix hx.fits hlength
        simpa [suffix] using compared_carries rfl hend.single ht.single
  | none =>
    refine hx.bind fun _ us hx => hp.bind fun _ vs hn => ?_
    have hlength := call₁_carries .length hn.fits
    cases d with
    | sqlite =>
      -- SQLite's text has the pattern three times, and each copy has parameters of its own.
      refine hp.bind fun _ ws hm => hp.map fun _ as ht => ?_
      have hcount := call₁_carries .length hm.fits
      have hend := call₃_carries .substring hx.fits (negate_fits hlength.single) hcount.fits
      simpa using compared_carries rfl hend.single ht.single
    | _ =>
      refine hp.map fun _ as ht => ?_
      have hend := call₂_carries .suffix hx.fits hlength.fits
      simpa [suffix] using compared_carries rfl hend.single ht.single

/-- A pattern in which the server escapes the wildcards. -/
lemma escapedByServer_carries {p : Scalar} {vs : List Value} (hp : p.Carries ok chain d vs) :
    (escapedByServer d p).Carries ok chain d vs := by
  have hfold : ∀ cs : List Char, '\'' ∉ cs → ∀ q : Scalar, q.Carries ok chain d vs →
      (cs.foldl (fun x c =>
        .call .replace [x, .text (String.ofList [c]), .text (String.ofList ['\\', c])])
        q).Carries ok chain d vs := by
    intro cs
    induction cs with
    | nil => exact fun _ q hq => hq
    | cons c cs ih =>
      intro hcs q hq
      rw [List.mem_cons, not_or] at hcs
      have hc : '\'' ∉ (String.ofList [c]).toList := by simpa using hcs.1
      have hescaped : '\'' ∉ (String.ofList ['\\', c]).toList := by simpa using hcs.1
      refine ih hcs.2 _ ?_
      simpa using call₃_carries .replace hq.fits (text_fits hc) (text_fits hescaped)
  refine hfold (wildcards d) ?_ p hp
  cases d <;> decide

/-- A match with a pattern, in parentheses. -/
lemma paren_like_carries {a b : Scalar} {us vs : List Value} (escaped : Bool)
    (ha : a.isSingle = true ∧ a.Fits ok chain d us)
    (hb : b.isSingle = true ∧ b.Fits ok chain d vs) :
    (Cond.paren (.like a b escaped)).Carries ok chain d (us ++ vs) := by
  refine ⟨rfl, ⟨⟨ha.1, ha.2.1⟩, hb.1, hb.2.1⟩, ?_⟩
  cases escaped <;> simp [ha.2.2, hb.2.2]

/-- The test that a text begins or ends with another, ignoring case. -/
lemma like_carries {atStart : Bool} (hx : x.scalar.Gives (Scalar.Carries ok chain d))
    (hp : pattern.scalar.Gives (Scalar.Carries ok chain d)) :
    (like d func atStart x pattern).Gives (Cond.Carries ok chain d) := by
  unfold like
  refine constantText?_gives.bind ?_
  rintro o _ rfl
  cases o with
  | some s =>
    have hliteral : ∀ v, (literal v).Gives (Scalar.Carries ok chain d) := literal_carries
    refine hx.map₂ (hliteral _) fun _ us _ vs hx ht => ?_
    simpa using paren_like_carries _ hx.single ht.single
  | none =>
    refine hx.map₂ hp fun _ us _ vs hx hp => ?_
    have hbody := (escapedByServer_carries hp).single
    have hpercent : (Scalar.text "%").isSingle = true ∧ (Scalar.text "%").Fits ok chain d [] :=
      ⟨rfl, text_fits (by decide)⟩
    cases atStart with
    | true => simpa using paren_like_carries true hx.single (concat_carries hbody hpercent).single
    | false => simpa using paren_like_carries true hx.single (concat_carries hpercent hbody).single

end Patterns

/-- A place counted from one. -/
lemma placeFromOne_carries {start : Argument}
    (hs : start.scalar.Gives (Scalar.Carries ok chain d)) :
    (placeFromOne start).Gives (Scalar.Carries ok chain d) := by
  unfold placeFromOne
  split
  case isTrue =>
    refine .lift_bind fun v _ => ?_
    cases v with
    | int n =>
      dsimp only
      split
      · exact literal_carries _
      · exact .fail
    | _ => exact .fail
  case isFalse =>
    refine hs.map fun _ us hs => ?_
    simpa using grouped_carries rfl hs.single ⟨rfl, number_fits 1⟩

/-- A part of a text, with or without a length. -/
lemma substring_carries {x start : Argument} {length : Option Argument}
    (hx : x.scalar.Gives (Scalar.Carries ok chain d))
    (hs : start.scalar.Gives (Scalar.Carries ok chain d))
    (hl : ∀ n ∈ length, n.scalar.Gives (Scalar.Carries ok chain d)) :
    (substring d x start length).Gives (Scalar.Carries ok chain d) := by
  have hplace := placeFromOne_carries hs
  unfold substring
  cases length with
  | some n =>
    exact hx.bind fun _ _ hx => hplace.map₂ (hl n rfl) fun _ _ _ _ hs hn =>
      call₃_carries .substring hx.fits hs.fits hn.fits
  | none =>
    dsimp only
    split
    · exact hx.bind fun _ _ ht => hplace.map₂ hx fun _ _ _ _ hs hx =>
        call₃_carries .substring ht.fits hs.fits (call₁_carries .length hx.fits).fits
    · exact hx.map₂ hplace fun _ _ _ _ hx hs => call₂_carries .substring hx.fits hs.fits

/-- A number rounded up or down. -/
lemma roundToward_carries {up : Bool} (hx : x.Gives (Scalar.Carries ok chain d)) :
    (roundToward d up x).Gives (Scalar.Carries ok chain d) := by
  unfold roundToward
  cases d with
  | sqlite =>
    have hwhole : Emit.Gives (do return Scalar.cast (← x) .integer)
        (Scalar.Carries ok chain .sqlite) := hx.map fun _ _ hx => cast_carries _ hx.fits
    have htest : (if up then BinaryOp.greaterThan else .lessThan).isComparison = true := by
      cases up <;> rfl
    have hstep : (if up then BinaryOp.add else .subtract).isNumeric = true := by cases up <;> rfl
    refine hx.bind fun _ us hx => hwhole.bind fun _ vs hbound => ?_
    refine hwhole.map₂ hwhole fun _ ws _ as hbeyond hsame => ?_
    have hnext := operator_fits hstep hbeyond.single ⟨rfl, number_fits 1⟩
    simpa using chosen_carries htest hx.single hbound.single hnext hsame.fits
  | _ => exact hx.map fun _ _ hx => call₁_carries _ hx.fits

/-- The larger or the smaller of two numbers. -/
lemma extremum_carries {y : Emit Scalar} {larger : Bool}
    (hx : x.Gives (Scalar.Carries ok chain d)) (hy : y.Gives (Scalar.Carries ok chain d)) :
    (extremum d larger x y).Gives (Scalar.Carries ok chain d) := by
  unfold extremum
  split
  · have htest : (if larger then BinaryOp.greaterThanOrEqual else .lessThanOrEqual).isComparison
        = true := by
      cases larger <;> rfl
    exact hx.bind fun _ _ hl => hy.bind fun _ _ hr => hx.map₂ hy fun _ _ _ _ hyes hno =>
      chosen_carries htest hl.single hr.single hyes.fits hno.fits
  · exact hx.map₂ hy fun _ _ _ _ hx hy => call₂_carries _ hx.fits hy.fits

/-- A part of a date. -/
lemma datePart_carries {f : DateField} (hx : x.Gives (Scalar.Carries ok chain d)) :
    (datePart d f x).Gives (Scalar.Carries ok chain d) := by
  unfold datePart
  cases d with
  | sqlite =>
    have hcode : '\'' ∉ f.code.toList := by cases f <;> decide
    exact hx.map fun _ _ hx => cast_carries _ (call₂_carries _ (text_fits hcode) hx.fits).fits
  | sqlServer => exact hx.map fun _ _ hx => ⟨rfl, hx.2.1, by simp [hx.2.2]⟩
  | postgreSql =>
    refine hx.map fun a us hx => cast_carries _ ?_
    have hpart : (Scalar.extract f a).Fits ok chain .postgreSql us :=
      ⟨hx.2.1, by simp [hx.2.2]⟩
    split
    · exact (call₁_carries _ hpart).fits
    · exact hpart

/-- A date some time later. -/
lemma dateAdd_carries {f : DateField} {amount : Emit Scalar}
    (hx : x.Gives (Scalar.Carries ok chain d)) (hn : amount.Gives (Scalar.Carries ok chain d)) :
    (dateAdd d f x amount).Gives (Scalar.Carries ok chain d) := by
  unfold dateAdd
  cases d with
  | sqlite =>
    refine hx.map₂ hn fun _ us _ vs hx hn => ?_
    have hunit : '\'' ∉ (" " ++ f.unit).toList := by cases f <;> decide
    have hamount := concat_carries hn.single ⟨rfl, text_fits hunit⟩
    simpa using call₂_carries .civilTime hx.fits hamount.fits
  | postgreSql =>
    refine hx.map₂ hn fun _ us b vs hx hn => grouped_carries rfl hx.single ⟨rfl, ?_⟩
    exact ⟨hn.2.1, by simp [hn.2.2]⟩
  | sqlServer =>
    exact hn.map₂ hx fun _ _ _ _ hn hx => ⟨rfl, ⟨hn.2.1, hx.2.1⟩, by simp [hn.2.2, hx.2.2]⟩

/-- A date without the time of day. -/
lemma dayOf_carries (hx : x.Gives (Scalar.Carries ok chain d)) :
    (dayOf d x).Gives (Scalar.Carries ok chain d) := by
  unfold dayOf
  cases d with
  | sqlite => exact hx.map fun _ _ hx => call₁_carries _ (call₁_carries _ hx.fits).fits
  | postgreSql => exact hx.map fun _ _ hx => call₂_carries _ (text_fits (by decide)) hx.fits
  | sqlServer => exact hx.map fun _ _ hx => cast_carries _ (cast_carries _ hx.fits).fits

/-- The day of the week of a date. -/
lemma dayOfWeek_carries (hx : x.Gives (Scalar.Carries ok chain d)) :
    (dayOfWeek d x).Gives (Scalar.Carries ok chain d) := by
  unfold dayOfWeek
  cases d with
  | sqlite =>
    exact hx.map fun _ _ hx =>
      cast_carries _ (call₂_carries _ (text_fits (by decide)) hx.fits).fits
  | postgreSql =>
    exact hx.map fun _ _ hx => cast_carries _ ⟨hx.2.1, by simp [hx.2.2]⟩
  | sqlServer =>
    refine hx.map ?_
    rintro x us ⟨-, hxw, hxb⟩
    -- Weeks start on a day of the server's choice, which is added before it is taken off again.
    have hshifted : Scalar.Written ok chain (.operator .add (.datePartWeekday x) .dateFirst) :=
      ⟨rfl, ⟨.inl rfl, hxw⟩, rfl, trivial⟩
    refine ⟨rfl, ⟨rfl, ⟨.inl rfl, rfl, ⟨.inr ⟨rfl, rfl⟩, hshifted⟩, rfl, trivial⟩, rfl, trivial⟩,
      ?_⟩
    simp [grouped, hxb]

/-- The present time at the server. -/
lemma localNow_carries : (localNow d).Carries ok chain d [] := by
  cases d with
  | sqlite => exact call₂_carries .civilTime (text_fits (by decide)) (text_fits (by decide))
  | postgreSql => exact ⟨rfl, trivial, rfl⟩
  | sqlServer => exact ScalarsFit.nil.call .localNow

/-- The present time everywhere. -/
lemma universalNow_carries : (universalNow d).Carries ok chain d [] := by
  cases d with
  | sqlite => exact call₁_carries .civilTime (text_fits (by decide))
  | postgreSql =>
    have hzone : '\'' ∉ "utc".toList := by decide
    exact ⟨rfl, ⟨⟨rfl, trivial⟩, hzone⟩, rfl⟩
  | sqlServer => exact ScalarsFit.nil.call .universalNow

/-- A text without the blanks at its ends. -/
lemma trimmed_carries {x : Scalar} {vs : List Value} (hx : x.Carries ok chain d vs) :
    (trimmed d x).Carries ok chain d vs := by
  unfold trimmed
  split
  · exact call₁_carries .trimStart (call₁_carries .trimEnd hx.fits).fits
  · exact call₁_carries .trim hx.fits

/-- A call of the routine that a function stands for. -/
lemma plain_carries {f : Routine} {args : List Argument}
    (h : ∀ a ∈ args, a.scalar.Gives (Scalar.Carries ok chain d)) :
    (plain f args).Gives (Scalar.Carries ok chain d) := by
  have hsequence : (plain.sequence args).Gives (ScalarsFit ok chain d) := by
    induction args with
    | nil => exact .done .nil
    | cons a as ih =>
      obtain ⟨ha, has⟩ := List.forall_mem_cons.mp h
      exact ha.map₂ (ih has) fun _ _ _ _ hx hxs => hxs.cons hx.fits
  exact hsequence.map fun _ _ hxs => hxs.call f

/-- A conversion to a storage class. -/
lemma castTo_carries {ty : ColumnType} (hx : x.Gives (Scalar.Carries ok chain d)) :
    (castTo d ty x).Gives (Scalar.Carries ok chain d) := by
  unfold castTo
  split
  · exact hx.map fun _ _ hx => cast_carries _ hx.fits
  · exact .fail

/-- The test that a text is null or empty, or that nothing is left of it without its white space. -/
lemma nullOr_carries {f : Scalar → Scalar} (hx : x.Gives (Scalar.Carries ok chain d))
    (hf : ∀ y vs, y.Carries ok chain d vs → (f y).Carries ok chain d vs) :
    Emit.Gives (do
      let left := Cond.isNull (← x)
      return .paren (.or left (.compare .equal (f (← x)) (.text ""))))
      (Cond.Carries ok chain d) := by
  refine hx.map₂ hx fun a us b vs hleft hright => ?_
  obtain ⟨hl, hlw, hlb⟩ := hleft.single
  obtain ⟨hr, hrw, hrb⟩ := (hf b vs hright).single
  have hempty : Scalar.Written ok chain (.text "") := by simp
  refine ⟨rfl, ⟨⟨rfl, hl, hlw⟩, rfl, rfl, ⟨hr, hrw⟩, rfl, hempty⟩, ?_⟩
  simp [hlb, hrb]

/-- The condition that a call of a test becomes. -/
theorem condition_carries {args : List Argument}
    (h : ∀ a ∈ args, a.scalar.Gives (Scalar.Carries ok chain d)) :
    (condition d func args).Gives (Cond.Carries ok chain d) := by
  have hshape := condition_shape d func args
  generalize condition d func args = c at hshape ⊢
  cases hshape with
  | contains x needle => exact contains_carries (h x (by simp)) (h needle (by simp))
  | startsWith x pattern => exact startsWith_carries (h x (by simp)) (h pattern (by simp))
  | endsWith x pattern => exact endsWith_carries (h x (by simp)) (h pattern (by simp))
  | like atStart x pattern => exact like_carries (h x (by simp)) (h pattern (by simp))
  | nullOrEmpty x => exact nullOr_carries (h x (by simp)) fun y vs hy => hy
  | nullOrBlank x => exact nullOr_carries (h x (by simp)) fun y vs hy => trimmed_carries hy
  | wrongArity => exact .fail

/-- The value that any other call becomes. -/
theorem scalar_carries {args : List Argument}
    (h : ∀ a ∈ args, a.scalar.Gives (Scalar.Carries ok chain d)) :
    (scalar d func args).Gives (Scalar.Carries ok chain d) := by
  have hshape := scalar_shape d func args
  generalize scalar d func args = y at hshape ⊢
  cases hshape with
  | plain r => exact plain_carries h
  | trimmed x => exact (h x (by simp)).map fun _ _ hx => trimmed_carries hx
  | substring x start => exact substring_carries (h x (by simp)) (h start (by simp)) (by simp)
  | substringLength x start length =>
    refine substring_carries (h x (by simp)) (h start (by simp)) ?_
    rintro n hn
    cases hn
    exact h length (by simp)
  | indexOf x needle => exact indexOf_carries (h x (by simp)) (h needle (by simp))
  | concat x y =>
    exact (h x (by simp)).map₂ (h y (by simp)) fun _ _ _ _ hx hy =>
      concat_carries hx.single hy.single
  | round x =>
    refine (h x (by simp)).map fun _ us hx => ?_
    split
    · simpa using call₂_carries .round hx.fits (number_fits 0)
    · exact call₁_carries .round hx.fits
  | roundToward up x => exact roundToward_carries (h x (by simp))
  | extremum larger x y => exact extremum_carries (h x (by simp)) (h y (by simp))
  | castTo ty x => exact castTo_carries (h x (by simp))
  | datePart field x => exact datePart_carries (h x (by simp))
  | dayOf x => exact dayOf_carries (h x (by simp))
  | dayOfWeek x => exact dayOfWeek_carries (h x (by simp))
  | dateAdd field x n => exact dateAdd_carries (h x (by simp)) (h n (by simp))
  | localNow => exact .done localNow_carries
  | universalNow => exact .done universalNow_carries
  | wrongArity => exact .fail

end Call

end TableQuery.Sql
