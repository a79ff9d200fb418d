import TableQuery.Proofs.Family.Expression
import TableQuery.Proofs.Schema.Index
import TableQuery.Proofs.Statement

/-!
# Values and texts

The values of literals have no influence on the text of a statement, but for those that the text
depends on by intent (`text_of_replace`).  As free literals are replaced by others of the same
storage class, either no statement is compiled, or all statements have one text, and their
parameters differ only where the value of a replaced literal is bound.

Whatever is written in a family of statements is a part that does not vary or the value of a free
literal (`Part`), and this is a stable property.
-/

namespace TableQuery.Sql

/-- A piece of a family of statements: one that does not vary, or the value of a literal. -/
inductive Part where
  | fixed (piece : Piece)
  | literal (l : Literal)

/-- The piece that a part is under a replacement. -/
def Part.piece (r : Replacement) : Part → Piece
  | fixed piece => piece
  | literal l => .param (r l.path l.value)

/-- What a parameter of a family of statements is bound to: a value that does not vary, or that of a
literal. -/
inductive Slot where
  | fixed (v : Value)
  | literal (l : Literal)

/-- The value that a parameter is bound to under a replacement. -/
def Slot.value (r : Replacement) : Slot → Value
  | fixed v => v
  | literal l => r l.path l.value

/-- What a part binds. -/
def Part.slot? : Part → Option Slot
  | fixed piece => piece.value?.map Slot.fixed
  | literal l => some (.literal l)

section Parts

variable {d : Dialect} {ls : List Literal}

/-- Whether the parts that vary are free literals among some. -/
def DrawnFrom (ls : List Literal) (parts : List Part) : Prop :=
  ∀ l, Part.literal l ∈ parts → l ∈ ls ∧ l.free = true

/-- Pieces are made of parts that vary only in free literals. -/
def Composed (ls : List Literal) (us : {r : Replacement // r.AllowsAll ls} → List Piece) : Prop :=
  ∃ parts, DrawnFrom ls parts ∧ ∀ r, us r = parts.map (Part.piece r.1)

/-- Pieces that do not vary are composed. -/
lemma composed_fixed (ps : List Piece) : Composed ls fun _ => ps := by
  refine ⟨ps.map .fixed, by simp [DrawnFrom], fun r => ?_⟩
  rw [List.map_map]
  exact (List.map_id ps).symm

/-- Composed pieces after others. -/
lemma Composed.append {us vs : {r : Replacement // r.AllowsAll ls} → List Piece}
    (hu : Composed ls us) (hv : Composed ls vs) : Composed ls fun r => us r ++ vs r := by
  obtain ⟨ps, hps, hus⟩ := hu
  obtain ⟨qs, hqs, hvs⟩ := hv
  refine ⟨ps ++ qs, fun l hl => ?_, fun r => ?_⟩
  · cases List.mem_append.mp hl with
    | inl h => exact hps l h
    | inr h => exact hqs l h
  · simp only [List.map_append, hus, hvs]

/-- What a dialect writes alike is composed. -/
lemma stable_composed : Stable d (Composed ls) where
  nil := composed_fixed []
  append := Composed.append
  word _ := composed_fixed [.word _]
  literal s := composed_fixed [.literal s]
  param v := composed_fixed [.param v]

/-- Each literal is covered by its own replacement. -/
lemma covers_composed (sites : List Site) (tables : List Table) :
    Covers (Composed ls) (fun r => r.1) ls sites tables where
  allows r := r.2
  literals l hl hfree := by
    refine ⟨[.literal l], fun k hk => ?_, fun _ => rfl⟩
    cases List.mem_singleton.mp hk
    exact ⟨hl, hfree⟩
  columns _ _ c _ := composed_fixed c.pieces
  tables t _ := composed_fixed [.identifier t.name]

/-- The text of parts does not depend on the replacement. -/
lemma piecesText_parts (r r' : Replacement) (n : Nat) (parts : List Part) :
    piecesText d n (parts.map (Part.piece r)) = piecesText d n (parts.map (Part.piece r')) := by
  induction parts generalizing n with
  | nil => rfl
  | cons part parts ih =>
    rw [List.map_cons, List.map_cons, piecesText, piecesText, ih]
    cases part <;> rfl

/-- Parts bind the values of their slots. -/
lemma boundValues_parts (r : Replacement) (parts : List Part) :
    boundValues (parts.map (Part.piece r)) = (parts.filterMap Part.slot?).map (Slot.value r) := by
  induction parts with
  | nil => rfl
  | cons part parts ih =>
    have hcons := boundValues_append [part.piece r] (parts.map (Part.piece r))
    rw [List.singleton_append, ih] at hcons
    rw [List.map_cons, hcons]
    cases part with
    | fixed piece => cases piece <;> rfl
    | literal l => rfl

end Parts

/-- Replacing free literals has no influence on what is compiled but for the values of parameters:
either nothing is compiled, for the same reason, or there is one text, and each parameter is bound
to one value or to the value of one free literal. -/
def Uninfluenced (ls : List Literal) (original : Except Error Statement)
    (replaced : Replacement → Except Error Statement) : Prop :=
  (∃ e, original = .error e ∧ ∀ r, r.AllowsAll ls → replaced r = .error e) ∨
    ∃ (text : String) (slots : List Slot),
      (∀ l, Slot.literal l ∈ slots → l ∈ ls ∧ l.free = true) ∧
        original = .ok ⟨text, slots.map (Slot.value .keep)⟩ ∧
          ∀ r, r.AllowsAll ls → replaced r = .ok ⟨text, slots.map (Slot.value r)⟩

section Compilation

variable {d : Dialect} {ls : List Literal}

/-- The literals that parameters are bound to are those that the parts of a text vary in. -/
lemma DrawnFrom.slots {parts : List Part} (h : DrawnFrom ls parts) :
    ∀ l, Slot.literal l ∈ parts.filterMap Part.slot? → l ∈ ls ∧ l.free = true := by
  intro l hl
  obtain ⟨part, hpart, hslot⟩ := List.mem_filterMap.mp hl
  cases part with
  | fixed piece =>
    obtain ⟨v, -, hv⟩ := Option.map_eq_some_iff.mp hslot
    cases hv
  | literal k =>
    cases hslot
    exact h l hpart

/-- What is compiled is not influenced if the steps are uniform and bind what is written. -/
lemma uninfluenced_of_uniform (x : Replacement → Emit Fragment)
    (hx : Emit.Uniform (fun r : {r : Replacement // r.AllowsAll ls} => x r.1) fun f =>
      Composed ls fun r => (f r).pieces d)
    (hbound : ∀ r, (x r).Gives fun f vs => boundValues (f.pieces d) = vs) :
    Uninfluenced ls (Statement.of d (x .keep)) fun r => Statement.of d (x r) := by
  have hkeep : Replacement.keep.AllowsAll ls := fun l _ => Replacement.allows_keep l
  obtain ⟨e, he⟩ | ⟨f, hf, parts, hparts, hpieces⟩ := hx
  · have herror : ∀ r, r.AllowsAll ls → Statement.of d (x r) = .error e := by
      intro r hr
      rw [Statement.of, he ⟨r, hr⟩]
      rfl
    exact .inl ⟨e, herror .keep hkeep, herror⟩
  · -- The parts have one text under all replacements, and each replacement sets its own values.
    have hcompiled : ∀ r, r.AllowsAll ls → Statement.of d (x r) =
        .ok ⟨piecesText d 1 (parts.map (Part.piece .keep)),
          (parts.filterMap Part.slot?).map (Slot.value r)⟩ := by
      intro r hr
      have hresult : (x r).result = .ok (f ⟨r, hr⟩) := hf ⟨r, hr⟩
      have hwritten : (f ⟨r, hr⟩).pieces d = parts.map (Part.piece r) := hpieces ⟨r, hr⟩
      rw [Statement.of, hresult, ← hbound r _ hresult, ← boundValues_parts r,
        piecesText_parts .keep r, ← hwritten]
      rfl
    exact .inr ⟨_, _, hparts.slots, hcompiled .keep hkeep, hcompiled⟩

end Compilation

/-- Other values may be chosen for the literals of a query in any way, each on its own: there is an
allowed replacement that makes the choice. -/
theorem Query.exists_replacement (q : Query) (f : Literal → Value)
    (hf : ∀ l ∈ q.literals [], l.Admits (f l)) :
    ∃ r : Replacement, r.AllowsAll (q.literals []) ∧
      ∀ l ∈ q.literals [], r l.path l.value = f l :=
  (q.leadThrough []).exists_allowed f hf

/-- Other values may be chosen for the literals of an expression in any way. -/
theorem Expr.exists_replacement (e : Expr) (f : Literal → Value)
    (hf : ∀ l ∈ e.literals false [], l.Admits (f l)) :
    ∃ r : Replacement, r.AllowsAll (e.literals false []) ∧
      ∀ l ∈ e.literals false [], r l.path l.value = f l :=
  (e.leadThrough false []).exists_allowed f hf

/-- The values of literals do not influence the text of a statement.  As the free literals of a
query, or of an expression over its row, are replaced by others of the same storage class, either no
statement is compiled, for one reason, or the text stays the same and each parameter is bound to one
value or to the value of one free literal. -/
theorem text_of_replace (d : Dialect) (q : Query) :
    Uninfluenced (q.literals []) (q.compile d) (fun r => (q.replace r []).compile d) ∧
      ∀ e : Expr, Uninfluenced (e.literals false []) (e.compile d q) fun r =>
        (e.replace r []).compile d q := by
  constructor
  case left =>
    have hcovers : Covers (Composed (q.literals [])) (fun r => r.1) (q.literals [])
      (querySites q (Context.top d q)) q.tables := covers_composed _ _
    have hselect := ofQuery_uniform stable_composed hcovers fun _ =>
      composed_fixed [.identifier "t"]
    have hpieces : Emit.Uniform (fun r => ofQuery d (q.replace r.1 [])) fun f =>
        Composed (q.literals []) fun r => (f r).pieces d := by
      refine hselect.mono ?_
      rintro _ ⟨s, rfl, hs⟩
      exact hs
    have hresult := uninfluenced_of_uniform (fun r => ofQuery d (q.replace r [])) hpieces
      fun r f hf => (ofQuery_carries (admits_true _) f hf).prints.2
    rwa [Query.replace_keep] at hresult
  case right =>
    intro e
    have hcovers : Covers (Composed (e.literals false [])) (fun r => r.1) (e.literals false [])
      (exprSites e (Context.top d q)) e.tables := covers_composed _ _
    have hpieces := ofExpr_uniform stable_composed hcovers
    have hresult := uninfluenced_of_uniform (fun r => ofExpr d q (e.replace r [])) hpieces
      fun r f hf => (ofExpr_carries (admits_true _) f hf).prints.2
    rwa [Expr.replace_keep] at hresult

/-- A table of goods. -/
def goodsTable : Table :=
  .of "goods"
    [⟨"id", "Id", .int, false, true⟩, ⟨"price", "Price", .int, false, false⟩,
      ⟨"name", "Name", .text, false, false⟩] (by decide)

/-- A query for goods by their price, among some, and by the beginning of their name. -/
def goodsQuery : Query :=
  { Query.all goodsTable ⟨0⟩ with
    predicate := some (.binary .and
      (.binary .lessThan (.column ⟨⟨0⟩, 1⟩) (.value (.int 10)))
      (.binary .and (.inList (.column ⟨⟨0⟩, 0⟩) [.int 1, .int 2])
        (.call .startsWith [.column ⟨⟨0⟩, 2⟩, .value (.text "t")]))) }

/-- Another bound of the price and another of the goods. -/
def otherGoods : Replacement := fun path v =>
  if path = [1, 0] then .int 99 else if path = [1, 1, 0, 1] then .int 7 else v

set_option maxRecDepth 8000 in
/-- The text of the query for goods does not depend on the price. -/
theorem text_of_replace_goods :
    Uninfluenced (goodsQuery.literals []) (goodsQuery.compile .sqlite)
        (fun r => (goodsQuery.replace r []).compile .sqlite) ∧
      otherGoods.AllowsAll (goodsQuery.literals []) ∧
      ∃ text, goodsQuery.compile .sqlite = .ok ⟨text, [.int 10, .int 1, .int 2, .text "t"]⟩ ∧
        (goodsQuery.replace otherGoods []).compile .sqlite =
          .ok ⟨text, [.int 99, .int 1, .int 7, .text "t"]⟩ := by
  have hliterals : goodsQuery.literals [] = [⟨[1, 0], .int 10, true⟩,
      ⟨[0, 1, 0, 1], .int 1, true⟩, ⟨[1, 1, 0, 1], .int 2, true⟩,
      ⟨[1, 1, 1], .text "t", false⟩] := rfl
  have hallows : otherGoods.AllowsAll (goodsQuery.literals []) := by
    simp only [Replacement.AllowsAll, hliterals, List.forall_mem_cons]
    exact ⟨rfl, rfl, rfl, rfl, List.forall_mem_nil _⟩
  exact ⟨(text_of_replace .sqlite goodsQuery).1, hallows, _, rfl, rfl⟩

end TableQuery.Sql
