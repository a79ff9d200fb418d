import TableQuery.Proofs.Text.Outside
import TableQuery.Proofs.Tree.Phrases
import TableQuery.Sql.Call

/-!
# Families of trees

Several trees of one shape, given by an index: the trees that an expression is compiled to as its
literals vary.  A property of the pieces of such a family is stable (`Stable`) if it holds of the
words of statements, of literal texts and of parameters, as long as they do not vary, and of
families one after another.  Then it holds of a family of trees as soon as it holds of the parts of
the trees: there is one lemma for each way of building a tree.

The words of statements are harmless: outside quotation they neither end a statement nor begin a
comment.
-/

namespace TableQuery.Sql

/-- Whether all tokens of a word are harmless. -/
def isHarmless (d : Dialect) (s : String) : Bool := (wordTokens d s).all Token.isHarmless

/-- A plain name is harmless. -/
lemma isHarmless_name {d : Dialect} {s : String} (h : isPlainName s = true) :
    isHarmless d s = true := by
  rw [isHarmless, (wordTokens_name h).2.1]
  rfl

/-- A numeral is harmless. -/
lemma isHarmless_numeral {d : Dialect} (n : Nat) : isHarmless d (toString n) = true :=
  isHarmless_name (isPlainName_numeral n)

/-- A number with a sign is harmless. -/
lemma isHarmless_integer {d : Dialect} (n : Int) : isHarmless d (toString n) = true := by
  cases n with
  | ofNat n => exact isHarmless_numeral n
  | negSucc n =>
    have hminus : isHarmless d ("-" ++ toString (n + 1)) = true := by
      rw [isHarmless, (wordTokens_minus (isPlainName_numeral (n + 1))).2]
      rfl
    exact hminus

/-- A property of families of pieces is stable: it holds of harmless words, of literals and of
parameters that do not vary, and of families one after another. -/
structure Stable {W : Type} (d : Dialect) (Q : (W → List Piece) → Prop) : Prop where
  nil : Q fun _ => []
  append {us vs : W → List Piece} : Q us → Q vs → Q fun w => us w ++ vs w
  word {s : String} : isHarmless d s = true → Q fun _ => [.word s]
  literal (s : String) : Q fun _ => [.literal s]
  param (v : Value) : Q fun _ => [.param v]

namespace Stable

variable {W : Type} {d : Dialect} {Q : (W → List Piece) → Prop} {us vs : W → List Piece}
  {s t : String}

/-- A word before others. -/
lemma cons (h : Stable d Q) (hs : isHarmless d s = true) (hu : Q us) :
    Q fun w => .word s :: us w :=
  h.append (h.word hs) hu

/-- A word after others. -/
lemma snoc (h : Stable d Q) (hu : Q us) (hs : isHarmless d s = true) :
    Q fun w => us w ++ [Piece.word s] :=
  h.append hu (h.word hs)

/-- A word between others. -/
lemma between (h : Stable d Q) (hu : Q us) (hs : isHarmless d s = true) (hv : Q vs) :
    Q fun w => us w ++ .word s :: vs w :=
  h.append hu (h.cons hs hv)

/-- Pieces between two words. -/
lemma within (h : Stable d Q) (hs : isHarmless d s = true) (hu : Q us)
    (ht : isHarmless d t = true) : Q fun w => .word s :: (us w ++ [Piece.word t]) :=
  h.cons hs (h.snoc hu ht)

/-- A closing parenthesis is harmless. -/
lemma close : isHarmless d ")" = true := by cases d <;> rfl

/-- A comma is harmless. -/
lemma comma : isHarmless d ", " = true := by cases d <;> rfl

/-- A blank is harmless. -/
lemma blank : isHarmless d " " = true := by cases d <;> rfl

/-- The names of the parts of a date are harmless. -/
lemma field (f : DateField) :
    isHarmless d f.name = true ∧ isHarmless d f.intervalField = true :=
  ⟨isHarmless_name f.name_isPlainName.1, isHarmless_name f.name_isPlainName.2⟩

/-- The symbols of operators are harmless. -/
lemma symbol (op : BinaryOp) : isHarmless d op.symbol = true := by cases op <;> cases d <;> rfl

/-- A choice that does not vary. -/
lemma ite {p : Prop} [Decidable p] (hu : Q us) (hv : Q vs) :
    Q fun w => if p then us w else vs w := by
  split
  · exact hu
  · exact hv

section Scalars

variable (h : Stable d Q) {x y z : W → Scalar} {c c' : W → Cond}
include h

/-- Null. -/
lemma null : Q fun _ => Scalar.null.pieces d := h.word (by cases d <;> rfl)

/-- A number. -/
lemma number (n : Nat) : Q fun _ => (Scalar.number n).pieces d := h.word (isHarmless_numeral n)

/-- A truth value. -/
lemma truth (b : Bool) : Q fun _ => (Scalar.truth b).pieces d :=
  h.word (by cases b <;> cases d <;> rfl)

/-- A literal text. -/
lemma text (s : String) : Q fun _ => (Scalar.text s).pieces d := h.literal s

/-- The first day of the week. -/
lemma dateFirst : Q fun _ => Scalar.dateFirst.pieces d := h.word (by cases d <;> rfl)

/-- The time of the server. -/
lemma localTimestamp : Q fun _ => Scalar.localTimestamp.pieces d := h.word (by cases d <;> rfl)

/-- A call of a routine. -/
lemma call (r : Routine) (xs : W → List Scalar) (hx : Q fun w => scalarListPieces d (xs w)) :
    Q fun w => (Scalar.call r (xs w)).pieces d := by
  have hname : isHarmless d (r.name d) = true := isHarmless_name (name_routine r).1
  have hopen : isHarmless d "(" = true := by cases d <;> rfl
  exact h.cons hname (h.within hopen hx close)

/-- A call without arguments. -/
lemma call₀ (r : Routine) : Q fun _ => (Scalar.call r []).pieces d := h.call r (fun _ => []) h.nil

/-- Values with commas between them. -/
lemma list {xs : List (W → Scalar)} (hx : ∀ x ∈ xs, Q fun w => (x w).pieces d) :
    Q fun w => scalarListPieces d (xs.map (· w)) := by
  induction xs with
  | nil => exact h.nil
  | cons x xs ih =>
    have hfirst := hx x List.mem_cons_self
    have hrest := ih fun y hy => hx y (List.mem_cons_of_mem x hy)
    cases xs with
    | nil => exact hfirst
    | cons y ys => exact h.between hfirst comma hrest

/-- A call with one argument. -/
lemma call₁ (r : Routine) (hx : Q fun w => (x w).pieces d) :
    Q fun w => (Scalar.call r [x w]).pieces d :=
  h.call r (fun w => [x w]) hx

/-- A call with two arguments. -/
lemma call₂ (r : Routine) (hx : Q fun w => (x w).pieces d) (hy : Q fun w => (y w).pieces d) :
    Q fun w => (Scalar.call r [x w, y w]).pieces d :=
  h.call r (fun w => [x w, y w]) (h.between hx comma hy)

/-- A call with three arguments. -/
lemma call₃ (r : Routine) (hx : Q fun w => (x w).pieces d) (hy : Q fun w => (y w).pieces d)
    (hz : Q fun w => (z w).pieces d) : Q fun w => (Scalar.call r [x w, y w, z w]).pieces d :=
  h.call r (fun w => [x w, y w, z w]) (h.between hx comma (h.between hy comma hz))

/-- A conversion. -/
lemma cast (ty : TypeName) (hx : Q fun w => (x w).pieces d) :
    Q fun w => (Scalar.cast (x w) ty).pieces d := by
  have hcast : isHarmless d "CAST(" = true := by cases d <;> rfl
  have has : isHarmless d " AS " = true := by cases d <;> rfl
  have hname : isHarmless d ty.name = true := by
    cases ty with
    | nvarchar | doublePrecision => cases d <;> rfl
    | _ => exact isHarmless_name rfl
  exact h.cons hcast (h.between hx has (h.cons hname (h.word close)))

/-- A part of a date. -/
lemma extract (f : DateField) (hx : Q fun w => (x w).pieces d) :
    Q fun w => (Scalar.extract f (x w)).pieces d := by
  have hextract : isHarmless d "EXTRACT(" = true := by cases d <;> rfl
  have hfrom : isHarmless d " FROM " = true := by cases d <;> rfl
  exact h.cons hextract (h.cons (field f).1 (h.within hfrom hx close))

/-- The day of the week of a date. -/
lemma extractWeekday (hx : Q fun w => (x w).pieces d) :
    Q fun w => (Scalar.extractWeekday (x w)).pieces d :=
  h.within (by cases d <;> rfl) hx close

/-- A part of a date, in words of another dialect. -/
lemma datePart (f : DateField) (hx : Q fun w => (x w).pieces d) :
    Q fun w => (Scalar.datePart f (x w)).pieces d := by
  have hpart : isHarmless d "DATEPART(" = true := by cases d <;> rfl
  exact h.cons hpart (h.cons (field f).1 (h.within comma hx close))

/-- The day of the week of a date, in words of another dialect. -/
lemma datePartWeekday (hx : Q fun w => (x w).pieces d) :
    Q fun w => (Scalar.datePartWeekday (x w)).pieces d :=
  h.within (by cases d <;> rfl) hx close

/-- A date some time later. -/
lemma dateAdd (f : DateField) (hx : Q fun w => (x w).pieces d) (hy : Q fun w => (y w).pieces d) :
    Q fun w => (Scalar.dateAdd f (x w) (y w)).pieces d := by
  have hadd : isHarmless d "DATEADD(" = true := by cases d <;> rfl
  have hxy := h.between hx comma (h.snoc hy close)
  exact h.cons hadd (h.cons (field f).1 (h.cons comma hxy))

/-- A length of time. -/
lemma interval (f : DateField) (hx : Q fun w => (x w).pieces d) :
    Q fun w => (Scalar.interval f (x w)).pieces d := by
  have hmake : isHarmless d "make_interval(" = true := by cases d <;> rfl
  have harrow : isHarmless d " => " = true := by cases d <;> rfl
  exact h.cons hmake (h.cons (field f).2 (h.within harrow hx close))

/-- A time in a time zone. -/
lemma atTimeZone (zone : String) (hx : Q fun w => (x w).pieces d) :
    Q fun w => (Scalar.atTimeZone (x w) zone).pieces d := by
  have hzone : isHarmless d " at time zone " = true := by cases d <;> rfl
  exact h.append hx (h.append (h.word hzone) (h.literal zone))

/-- An operator between two values. -/
lemma operator (op : BinaryOp) (hx : Q fun w => (x w).pieces d) (hy : Q fun w => (y w).pieces d) :
    Q fun w => (Scalar.operator op (x w) (y w)).pieces d :=
  h.between hx blank (h.cons (symbol op) (h.cons blank hy))

/-- A concatenation. -/
lemma concat (hx : Q fun w => (x w).pieces d) (hy : Q fun w => (y w).pieces d) :
    Q fun w => (Scalar.concat (x w) (y w)).pieces d :=
  h.between hx (by cases d <;> rfl) hy

/-- A negated number. -/
lemma negate (hx : Q fun w => (x w).pieces d) : Q fun w => (Scalar.negate (x w)).pieces d :=
  h.cons (by cases d <;> rfl) hx

/-- A number with its bits inverted. -/
lemma complement (hx : Q fun w => (x w).pieces d) :
    Q fun w => (Scalar.complement (x w)).pieces d :=
  h.cons (by cases d <;> rfl) hx

/-- A choice between two values. -/
lemma case (hc : Q fun w => (c w).pieces d) (hx : Q fun w => (x w).pieces d)
    (hy : Q fun w => (y w).pieces d) : Q fun w => (Scalar.case (c w) (x w) (y w)).pieces d := by
  have hwhen : isHarmless d "CASE WHEN " = true := by cases d <;> rfl
  have hthen : isHarmless d " THEN " = true := by cases d <;> rfl
  have helse : isHarmless d " ELSE " = true := by cases d <;> rfl
  have hend : isHarmless d " END" = true := by cases d <;> rfl
  exact h.cons hwhen (h.between hc hthen (h.between hx helse (h.snoc hy hend)))

/-- A value in parentheses. -/
lemma paren (hx : Q fun w => (x w).pieces d) : Q fun w => (Scalar.paren (x w)).pieces d :=
  h.within (by cases d <;> rfl) hx close

/-- An operator between two values, in parentheses. -/
lemma grouped (op : BinaryOp) (hx : Q fun w => (x w).pieces d) (hy : Q fun w => (y w).pieces d) :
    Q fun w => (Sql.grouped op (x w) (y w)).pieces d :=
  h.paren (h.operator op hx hy)

/-- A choice between two values, in parentheses. -/
lemma chosen (hc : Q fun w => (c w).pieces d) (hx : Q fun w => (x w).pieces d)
    (hy : Q fun w => (y w).pieces d) : Q fun w => (Sql.chosen (c w) (x w) (y w)).pieces d :=
  h.paren (h.case hc hx hy)

end Scalars

section Conditions

variable (h : Stable d Q) {x y : W → Scalar} {c c' : W → Cond} {q : W → Select}
include h

/-- A condition in parentheses. -/
lemma parenCond (hc : Q fun w => (c w).pieces d) : Q fun w => (Cond.paren (c w)).pieces d :=
  h.within (by cases d <;> rfl) hc close

/-- A comparison. -/
lemma compare (op : BinaryOp) (hx : Q fun w => (x w).pieces d) (hy : Q fun w => (y w).pieces d) :
    Q fun w => (Cond.compare op (x w) (y w)).pieces d :=
  h.between hx blank (h.cons (symbol op) (h.cons blank hy))

/-- A comparison in parentheses. -/
lemma compared (op : BinaryOp) (hx : Q fun w => (x w).pieces d) (hy : Q fun w => (y w).pieces d) :
    Q fun w => (Sql.compared op (x w) (y w)).pieces d :=
  h.parenCond (h.compare op hx hy)

/-- A conjunction. -/
lemma and (hc : Q fun w => (c w).pieces d) (hc' : Q fun w => (c' w).pieces d) :
    Q fun w => (Cond.and (c w) (c' w)).pieces d :=
  h.between hc (by cases d <;> rfl) hc'

/-- A disjunction. -/
lemma or (hc : Q fun w => (c w).pieces d) (hc' : Q fun w => (c' w).pieces d) :
    Q fun w => (Cond.or (c w) (c' w)).pieces d :=
  h.between hc (by cases d <;> rfl) hc'

/-- A negated condition. -/
lemma not (hc : Q fun w => (c w).pieces d) : Q fun w => (Cond.not (c w)).pieces d :=
  h.cons (by cases d <;> rfl) hc

/-- A test for null. -/
lemma isNull (hx : Q fun w => (x w).pieces d) : Q fun w => (Cond.isNull (x w)).pieces d :=
  h.snoc hx (by cases d <;> rfl)

/-- A test for a value other than null. -/
lemma isNotNull (hx : Q fun w => (x w).pieces d) : Q fun w => (Cond.isNotNull (x w)).pieces d :=
  h.snoc hx (by cases d <;> rfl)

/-- A test for membership in a list. -/
lemma inList {xs : W → List Scalar} (hx : Q fun w => (x w).pieces d)
    (hxs : Q fun w => scalarListPieces d (xs w)) :
    Q fun w => (Cond.inList (x w) (xs w)).pieces d :=
  h.append hx (h.within (by cases d <;> rfl) hxs close)

/-- A test for membership in a query. -/
lemma inSelect (hx : Q fun w => (x w).pieces d) (hq : Q fun w => (q w).pieces d) :
    Q fun w => (Cond.inSelect (x w) (q w)).pieces d :=
  h.append hx (h.within (by cases d <;> rfl) hq close)

/-- A match with a pattern. -/
lemma like (escaped : Bool) (hx : Q fun w => (x w).pieces d) (hy : Q fun w => (y w).pieces d) :
    Q fun w => (Cond.like (x w) (y w) escaped).pieces d := by
  have hlike : isHarmless d d.likeKeyword = true := by cases d <;> rfl
  have hescape : isHarmless d " ESCAPE " = true := by cases d <;> rfl
  have hend : Q fun _ => if escaped then [.word " ESCAPE ", .literal "\\"] else [] :=
    ite (h.append (h.word hescape) (h.literal "\\")) h.nil
  exact h.between hx blank (h.cons hlike (h.cons blank (h.append hy hend)))

/-- A test for existence. -/
lemma «exists» (hq : Q fun w => (q w).pieces d) : Q fun w => (Cond.exists (q w)).pieces d :=
  h.within (by cases d <;> rfl) hq close

/-- A truth value as a condition. -/
lemma truthCond (b : Bool) : Q fun _ => (Sql.truth b).pieces d :=
  h.compared .equal (h.number 1) (h.number _)

end Conditions

section Statements

variable (h : Stable d Q)
include h

/-- Pieces with commas between them. -/
lemma separated {pss : List (List Piece)} (hp : ∀ ps ∈ pss, Q fun _ => ps) :
    Q fun _ => Sql.separated ", " pss := by
  induction pss with
  | nil => exact h.nil
  | cons ps pss ih =>
    have hfirst := hp ps List.mem_cons_self
    have hrest := ih fun qs hqs => hp qs (List.mem_cons_of_mem ps hqs)
    cases pss with
    | nil => exact hfirst
    | cons qs qss => exact h.between hfirst comma hrest

/-- What a statement returns. -/
lemma output (o : Output) (hc : ∀ c ∈ o.names, Q fun _ => c.pieces) : Q fun _ => o.pieces := by
  cases o with
  | all => exact h.word (by cases d <;> rfl)
  | one => exact h.word (by cases d <;> rfl)
  | count big => exact h.word (by cases big <;> cases d <;> rfl)
  | columns names =>
    refine h.separated fun ps hps => ?_
    obtain ⟨c, hcmem, rfl⟩ := List.mem_map.mp hps
    exact hc c hcmem

/-- What a statement sorts by. -/
lemma order (ts : List OrderTerm) (hc : ∀ t ∈ ts, Q fun _ => t.column.pieces) :
    Q fun _ => if ts.isEmpty then [] else
      .word " ORDER BY " :: Sql.separated ", " (ts.map OrderTerm.pieces) := by
  refine ite h.nil (h.cons (by cases d <;> rfl) (h.separated fun ps hps => ?_))
  obtain ⟨t, ht, rfl⟩ := List.mem_map.mp hps
  exact h.snoc (hc t ht) (by cases t.ascending <;> cases d <;> rfl)

/-- A row limit before the output. -/
lemma top (n : Option Nat) :
    Q fun _ => match n with
      | some n => [.word "TOP (", numeral n, .word ") "]
      | none => [] := by
  have hopen : isHarmless d "TOP (" = true := by cases d <;> rfl
  have hclose : isHarmless d ") " = true := by cases d <;> rfl
  cases n with
  | none => exact h.nil
  | some n => exact h.within hopen (h.word (isHarmless_numeral n)) hclose

/-- The window of a statement. -/
lemma limit (l : Limit) : Q fun _ => l.pieces := by
  have hnumber : ∀ n : Nat, Q fun _ => [numeral n] := fun n => h.word (isHarmless_numeral n)
  cases l with
  | none => exact h.nil
  | limitOffset count skipped =>
    have hcount := h.cons (s := " limit ") (by cases d <;> rfl) (h.word (isHarmless_integer count))
    cases skipped with
    | none => exact h.append hcount h.nil
    | some n => exact h.append hcount (h.cons (by cases d <;> rfl) (hnumber n))
  | offsetFetch skipped fetched =>
    have hrows : Q fun _ => [.word " ROWS"] := h.word (by cases d <;> rfl)
    have hoffset : isHarmless d " OFFSET " = true := by cases d <;> rfl
    have hskipped := h.cons hoffset (h.append (hnumber skipped) hrows)
    cases fetched with
    | none => exact h.append hskipped h.nil
    | some n =>
      have hend : Q fun _ => [.word " ROWS ONLY"] := h.word (by cases d <;> rfl)
      have hfetch : isHarmless d " FETCH NEXT " = true := by cases d <;> rfl
      exact h.append hskipped (h.cons hfetch (h.append (hnumber n) hend))

/-- The filter of a statement. -/
lemma filters {cs : List (W → Cond)} (hc : ∀ c ∈ cs, Q fun w => (c w).pieces d) :
    Q fun w => filterPieces d (cs.map (· w)) := by
  have hfurther : ∀ cs : List (W → Cond), (∀ c ∈ cs, Q fun w => (c w).pieces d) →
      Q fun w => furtherFilters d (cs.map (· w)) := by
    intro cs hcs
    induction cs with
    | nil => exact h.nil
    | cons c cs ih =>
      have hrest := ih fun c' hc' => hcs c' (List.mem_cons_of_mem c hc')
      exact h.cons (by cases d <;> rfl) (h.append (hcs c List.mem_cons_self) hrest)
  cases cs with
  | nil => exact h.nil
  | cons c cs =>
    have hrest := hfurther cs fun c' hc' => hc c' (List.mem_cons_of_mem c hc')
    exact h.cons (by cases d <;> rfl) (h.append (hc c List.mem_cons_self) hrest)

/-- A statement that is read as a table. -/
lemma derived {s : W → Select} {label : String} (hs : Q fun w => (s w).pieces d)
    (hlabel : Q fun _ => [.identifier label]) :
    Q fun w => (Source.derived (s w) label).pieces d := by
  have hopen : isHarmless d "(" = true := by cases d <;> rfl
  have has : isHarmless d ") AS " = true := by cases d <;> rfl
  exact h.cons hopen (h.append hs (h.cons has hlabel))

/-- A statement, of which the conditions and what it reads may vary. -/
lemma select {distinct : Bool} {top : Option Nat} {o : Output} {source : W → Source}
    {filters : W → List Cond} {ts : List OrderTerm} {l : Limit}
    (ho : ∀ c ∈ o.names, Q fun _ => c.pieces) (hs : Q fun w => (source w).pieces d)
    (hf : Q fun w => filterPieces d (filters w)) (ht : ∀ t ∈ ts, Q fun _ => t.column.pieces) :
    Q fun w => (Select.mk distinct top o (source w) (filters w) ts l).pieces d := by
  have hselect : Q fun _ => [.word "SELECT "] := h.word (by cases d <;> rfl)
  have hdistinct : Q fun _ => if distinct then [.word "DISTINCT "] else [] :=
    ite (h.word (by cases d <;> rfl)) h.nil
  have hfrom : Q fun _ => [.word " FROM "] := h.word (by cases d <;> rfl)
  have hbegin := h.append (h.append hselect hdistinct) (h.top top)
  have hread := h.append (h.append (h.append hbegin (h.output o ho)) hfrom) hs
  exact h.append (h.append (h.append hread hf) (h.order ts ht)) (h.limit l)

end Statements

end Stable

end TableQuery.Sql
