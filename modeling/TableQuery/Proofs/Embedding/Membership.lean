import TableQuery.Proofs.Embedding.Exchange
import TableQuery.Proofs.Renaming.Compilation

/-!
# Queries that stand in others

Let membership be tested in a query that reads none of the rows around it.  Then the query is
compiled as it is on its own: the rows around it are only there to be looked up, and it does not
look for them (`Stands.of_succeeds`).  And the rest of the statement does not depend on the query:
its pieces are the same for all queries that may stand there (`ofQuery_assembled`).  Together, the
statement of the query stands word for word in the statement around it (`membership_embeds`).
-/

namespace TableQuery.Sql

open Emit (Uniform)

/-- A part of a statement in which queries stand: a piece, or the query that is tested for
membership, with the word before it and the parenthesis behind it. -/
inductive Segment where
  | piece (p : Piece)
  | subquery

/-- The pieces of a part, given those of the query. -/
def Segment.pieces (inner : List Piece) : Segment → List Piece
  | piece p => [p]
  | subquery => .word " IN (" :: (inner ++ [.word ")"])

/-- The pieces of several parts, given those of the query. -/
def assemble (inner : List Piece) (segments : List Segment) : List Piece :=
  segments.flatMap (Segment.pieces inner)

/-- Parts after others are put together after them. -/
lemma assemble_append (inner : List Piece) (left right : List Segment) :
    assemble inner (left ++ right) = assemble inner left ++ assemble inner right :=
  List.flatMap_append

/-- Parts without a query are the pieces that they are. -/
lemma assemble_piece (inner ps : List Piece) : assemble inner (ps.map .piece) = ps := by
  rw [assemble, List.flatMap_map]
  exact List.flatMap_singleton' ps

variable {W : Type} {written : Bool} {inner : W → List Piece}

/-- The pieces of a family are put together from the same parts with different queries.  There is a
query among the parts only if it is written. -/
def Assembled (written : Bool) (inner ps : W → List Piece) : Prop :=
  ∃ segments, (.subquery ∈ segments → written = true) ∧ ∀ w, ps w = assemble (inner w) segments

/-- Pieces that are put together from the same parts compose. -/
lemma composes_assembled : Composes (Assembled written inner) where
  fixed ps := ⟨ps.map .piece, by simp, fun w => (assemble_piece (inner w) ps).symm⟩
  append := by
    rintro us vs ⟨left, hleft, hus⟩ ⟨right, hright, hvs⟩
    refine ⟨left ++ right, fun h => (List.mem_append.mp h).elim hleft hright, fun w => ?_⟩
    exact (congrArg₂ (· ++ ·) (hus w) (hvs w)).trans (assemble_append (inner w) left right).symm

/-- The pieces of the statement of a query, if it has one. -/
def statementPieces (d : Dialect) (q : Query) : List Piece :=
  match (ofQuery d q).result with
  | .ok f => f.pieces d
  | .error _ => []

variable {d : Dialect} {ctx : Context} {q : Query}

/-- A query that reads none of the rows around it may be tested for membership in a place, and has
the same pieces there as on its own. -/
structure Stands (ctx : Context) (q : Query) : Prop where
  column : q.projection.length = 1
  sequence : q.terminal.isSequence = true
  plain : ctx.isCorrelated q = false
  alone : ∃ st, q.compile ctx.dialect = .ok st
  select : ∃ s, (Select.of (ctx.inside q) q (queryFilter q (ctx.inside q))).result = .ok s ∧
    s.pieces ctx.dialect = statementPieces ctx.dialect q

section Places

/-- The rows around a query are those of a place, or there are none. -/
def around (ss : List Scope) : Bool → Variation
  | true => ⟨id, ss⟩
  | false => ⟨id, []⟩

/-- A context with other rows around it and no renaming. -/
lemma Context.vary_id (d : Dialect) (q : Query) (ss : List Scope) :
    (Context.top d q).vary ⟨id, ss⟩ = ⟨d, false, Scope.of q, ss⟩ := by
  have hrows : ([] ++ ss).map (Scope.rename id) = ss := List.map_id ss
  unfold Context.vary Context.top
  rw [hrows]
  rfl

/-- The rows around a query that does not read them make no difference to its statement. -/
lemma Select.of_around {ss : List Scope} {s : Select}
    (h : ∀ ref ∈ q.leaves.filterMap Leaf.column?, ∀ s ∈ ss, s.source ≠ ref.source)
    (hs : (Select.of ⟨d, false, Scope.of q, ss⟩ q
      (queryFilter q ⟨d, false, Scope.of q, ss⟩)).result = .ok s) :
    ∃ s', (Select.of (Context.top d q) q (queryFilter q (Context.top d q))).result = .ok s' ∧
      s.pieces d = s'.pieces d := by
  have hspares : ∀ b, (around ss b).Spares (q.leaves.filterMap Leaf.column?) := by
    rintro (_ | _)
    · exact ⟨Function.injective_id, fun _ _ => List.forall_mem_nil _⟩
    · exact ⟨Function.injective_id, h⟩
  have hwidest : ∀ b, (around ss b).beyond ⊆ (around ss true).beyond := by
    rintro (_ | _)
    · exact List.nil_subset _
    · exact List.Subset.refl _
  have hrename : ∀ b, q.rename (around ss b).rename = q := by
    rintro (_ | _) <;> exact q.rename_id
  have hinside : (Context.top d q).vary (around ss true) = ⟨d, false, Scope.of q, ss⟩ :=
    Context.vary_id d q ss
  have halone : (Context.top d q).vary (around ss false) = Context.top d q :=
    Context.vary_id d q []
  -- The place with the rows around leads: a subquery that may stand there may stand without them.
  have hfollow := queryFilter_vary hwidest q (Context.top d q) hspares
  have hfilter := Select.of_needs (needsIfPresent_self _) s hs
  rw [← hinside] at hfilter hs
  simp only [hrename] at hfollow
  have hselect : Uniform (fun b => Select.of ((Context.top d q).vary (around ss b))
      (q.rename (around ss b).rename) (queryFilter q ((Context.top d q).vary (around ss b))))
      (Selects d Fixed) :=
    Select.of_vary (fun b => (hspares b).injective) rfl (hfollow.uniform (.inr hfilter))
  simp only [hrename] at hselect
  obtain ⟨err, herr⟩ | ⟨f, hf, hpieces⟩ := hselect
  · cases hs.symm.trans (herr true)
  · cases hs.symm.trans (hf true)
    exact ⟨f false, halone ▸ hf false, hpieces true false⟩

/-- The pieces of a statement that succeeds. -/
lemma statementPieces_of_ok {f : Fragment} (h : (ofQuery d q).result = .ok f) :
    statementPieces d q = f.pieces d := by
  rw [statementPieces, h]

/-- The statement of a query can be told from its pieces. -/
lemma Statement.of_pieces {st : Statement} (h : q.compile d = .ok st) :
    st.text = piecesText d 1 (statementPieces d q) ∧
      st.parameters = boundValues (statementPieces d q) ∧ Scans d (statementPieces d q) := by
  obtain ⟨f, hf, htext, hparameters⟩ := Statement.of_eq_ok h
  have hemit : ((Request.query q).emit d).result = .ok f := hf
  obtain ⟨hscans, hbound⟩ := Request.scans hemit
  rw [statementPieces_of_ok hf]
  exact ⟨htext, hparameters.trans hbound.symm, hscans⟩

/-- A query that is compiled in a place stands there as on its own. -/
lemma Stands.of_succeeds (hqualify : ctx.qualify = false) (hplain : ctx.isCorrelated q = false)
    (hq : q.projection.length = 1 ∧ q.terminal.isSequence = true ∧
      (Select.of (ctx.inside q) q (queryFilter q (ctx.inside q))).Succeeds) : Stands ctx q := by
  obtain ⟨hcolumn, hsequence, s, hs⟩ := hq
  have hinside : ctx.inside q = ⟨ctx.dialect, false, Scope.of q, ctx.scopes⟩ := by
    rw [Context.inside, hqualify, hplain]
    rfl
  have hsame := hs
  rw [hinside] at hsame
  obtain ⟨s', hs', hpieces⟩ := Select.of_around (Context.isCorrelated_eq_false_iff.mp hplain) hsame
  have hquery : (ofQuery ctx.dialect q).result = .ok (.select s') := by
    simp only [ofQuery, Bind.bind, Emit.andThen, hs']
    rfl
  have halone : ∃ st, q.compile ctx.dialect = .ok st := by
    rw [Query.compile, Statement.of, hquery]
    exact ⟨_, rfl⟩
  refine ⟨hcolumn, hsequence, hplain, halone, s, hs, ?_⟩
  rw [hpieces, statementPieces_of_ok hquery]
  rfl

end Places

section Families

variable {x : Expr} {q : W → Query}

/-- Tests for membership in queries that stand in a place differ in the queries alone. -/
lemma Stands.exchangeable (h : ∀ w, Stands ctx (q w)) :
    Exchangeable ctx (Assembled true fun w => statementPieces ctx.dialect (q w))
      fun w => .inSubquery x (q w) := by
  have hQ : Composes (Assembled true fun w => statementPieces ctx.dialect (q w)) :=
    composes_assembled
  have hs := hQ.stable ctx.dialect
  choose s hselect hpieces using fun w => (h w).select
  have hmembership : ∀ w (x : Emit Scalar), subqueryMembership ctx (q w) x
      (queryFilter (q w) (ctx.inside (q w))) = do
        return .paren (.inSelect (← x) (← Select.of (ctx.inside (q w)) (q w)
          (queryFilter (q w) (ctx.inside (q w))))) := by
    intro w x
    unfold subqueryMembership
    simp only [(h w).column, (h w).sequence, (h w).plain, ne_eq, not_true_eq_false, Bool.not_true,
      Bool.false_and, Bool.false_eq_true, if_false]
  refine .of_type (.inr fun _ => rfl) (fun _ _ => rfl) (fun _ => rfl) ?_
  simp only [formsOf, hmembership]
  refine Forms.ofCondition_uniform hs (((Exchangeable.fixed hQ ctx x).forms.2).bind fun x hx => ?_)
  refine Uniform.bind (.inr ⟨s, hselect, rfl⟩) ?_
  rintro _ rfl
  refine .pure (hs.parenCond (hs.append hx ⟨[.subquery], fun _ => rfl, fun w => ?_⟩))
  rw [assemble, List.flatMap_singleton, Segment.pieces]
  dsimp only
  rw [hpieces w]

/-- A statement with a test for membership in a place that is not left out can only be compiled if
the query of the test stands there. -/
lemma Stands.of_compile {outer q : Query} {s : Spot} {st : Statement}
    (hopen : Spot.isOpen (.inSubquery x q) s (Context.top d outer) = true)
    (hplain : (s.place (Context.top d outer)).isCorrelated q = false) (hwritten : s.drops = false)
    (h : (outer.filteredBy (s.fill (.inSubquery x q))).compile d = .ok st) :
    Stands (s.place (Context.top d outer)) q := by
  obtain ⟨f, hf, -, -⟩ := Statement.of_eq_ok h
  let place := s.place (Context.top d outer)
  have hnode : (formsOf (.inSubquery x q) place).Needs (q.projection.length = 1 ∧
      q.terminal.isSequence = true ∧
        (Select.of (place.inside q) q (queryFilter q (place.inside q))).Succeeds) :=
    Forms.ofCondition_needs subqueryMembership_needs_select
  have hwhole := (Spot.needs rfl hopen hwritten hnode).1
  have hselect : (Select.of (Context.top d outer) (outer.filteredBy (s.fill (.inSubquery x q)))
      (some _)).Needs _ := Select.of_needs hwhole
  exact .of_succeeds Spot.qualify_place hplain (hselect.first f hf)

/-- The statement around a place is put together from the same parts for all queries that may be
tested for membership there. -/
lemma ofQuery_assembled {outer : Query} {s : Spot}
    (hopen : ∀ w, Spot.isOpen (.inSubquery x (q w)) s (Context.top d outer) = true)
    (hstands : s.drops = false → ∀ w, Stands (s.place (Context.top d outer)) (q w)) :
    Uniform (fun w => ofQuery d (outer.filteredBy (s.fill (.inSubquery x (q w))))) fun f =>
      Assembled (!s.drops) (fun w => statementPieces d (q w)) fun w => (f w).pieces d := by
  have hQ : Composes (Assembled (!s.drops) fun w => statementPieces d (q w)) := composes_assembled
  have hexchangeable : Exchangeable (Context.top d outer)
      (Assembled (!s.drops) fun w => statementPieces d (q w))
      fun w => s.fill (.inSubquery x (q w)) := by
    refine Spot.exchangeable hQ (fun _ => rfl) hopen fun hdrops => ?_
    have hnode := Stands.exchangeable (x := x) (hstands hdrops)
    rw [Spot.dialect_place] at hnode
    rw [hdrops]
    exact hnode
  have hselect : Uniform (fun w => Select.of (Context.top d outer) { outer with predicate := none }
      (some (formsOf (s.fill (.inSubquery x (q w))) (Context.top d outer)).condition)) _ :=
    Select.of_uniform (hQ.stable d) (fun _ _ _ _ => hQ.fixed _) (hQ.fixed _)
      (.inr ⟨_, rfl, hexchangeable.forms.1⟩) fun _ => hQ.fixed _
  exact hselect.bind fun _ hs => .pure hs

end Families

/-- A statement has another one in it, between the words of a membership test: before it stand some
pieces, and the numbers of its parameters go on where those of the pieces before it end; so do the
numbers of the pieces behind it. -/
structure Statement.Embeds (d : Dialect) (st inner : Statement) (before after : List Piece) :
    Prop where
  text : st.text = piecesText d 1 before ++
    (" IN (" ++ renumber d (boundValues before).length inner.text ++ ")") ++
      piecesText d (1 + (boundValues before).length + inner.parameters.length) after
  parameters : st.parameters = boundValues before ++ inner.parameters ++ boundValues after

/-- A statement has another one in it if its pieces have that one's pieces. -/
lemma Statement.embeds_of_pieces {st inner : Statement} {q outer : Query}
    (h : outer.compile d = .ok st) (hq : q.compile d = .ok inner) {before after : List Piece}
    (hpieces : statementPieces d outer =
      before ++ (Piece.word " IN (" :: (statementPieces d q ++ [Piece.word ")"]) ++ after)) :
    st.Embeds d inner before after := by
  obtain ⟨htext, hparameters, -⟩ := Statement.of_pieces h
  obtain ⟨htext', hparameters', hscans⟩ := Statement.of_pieces hq
  have hrenumber := hscans.renumber (boundValues before).length 1
  constructor
  · have hbound : boundValues (.word " IN (" :: (statementPieces d q ++ [Piece.word ")"])) =
        inner.parameters := by
      simp only [hparameters', boundValues_word, boundValues_append, boundValues_nil,
        List.append_nil]
    have hclose : ∀ n, piecesText d n [.word ")"] = ")" := fun _ => rfl
    rw [htext, hpieces, piecesText_append, piecesText_append, hbound, piecesText_word,
      piecesText_append, hrenumber, ← htext', hclose]
    simp only [String.append_assoc]
  · rw [hparameters, hpieces, hparameters']
    simp only [boundValues_append, boundValues_word, boundValues_nil, List.append_nil,
      List.append_assoc]

/-- Let a dialect be given, a query, a place in its filter, and the operand of a membership test to
stand there.  Then there is a list of parts from which the statement is put together, whichever
other query membership is tested in: as long as the place is in no query that reads the rows around
it, the other query reads none of the rows around it either, and the whole can be compiled.  Unless
the place is left out, the other query can be compiled on its own then; and wherever it stands among
the parts, its own statement is embedded. -/
theorem membership_embeds (d : Dialect) (outer : Query) (spot : Spot) (x : Expr) :
    ∃ segments : List Segment, ∀ (inner : Query) (st : Statement),
      Spot.isOpen (.inSubquery x inner) spot (Context.top d outer) = true →
      (spot.place (Context.top d outer)).isCorrelated inner = false →
      (outer.filteredBy (spot.fill (.inSubquery x inner))).compile d = .ok st →
        st.text = piecesText d 1 (assemble (statementPieces d inner) segments) ∧
        st.parameters = boundValues (assemble (statementPieces d inner) segments) ∧
        (spot.drops = false → ∃ alone, inner.compile d = .ok alone) ∧
        ∀ before after, segments = before ++ .subquery :: after →
          ∃ alone, inner.compile d = .ok alone ∧
            st.Embeds d alone (assemble (statementPieces d inner) before)
              (assemble (statementPieces d inner) after) := by
  -- The queries that may stand in the place; in one that is left out, any query may.
  let W : Type := { q : Query // Spot.isOpen (.inSubquery x q) spot (Context.top d outer) = true ∧
    (spot.drops = false → Stands (spot.place (Context.top d outer)) q) }
  have huniform := ofQuery_assembled (q := fun w : W => w.1) (fun w => w.2.1)
    fun hdrops w => w.2.2 hdrops
  have hmember : ∀ (inner : Query) (st : Statement),
      Spot.isOpen (.inSubquery x inner) spot (Context.top d outer) = true →
      (spot.place (Context.top d outer)).isCorrelated inner = false →
      (outer.filteredBy (spot.fill (.inSubquery x inner))).compile d = .ok st →
        ∃ w : W, w.1 = inner := by
    intro inner st hopen hplain hst
    exact ⟨⟨inner, hopen, fun hdrops => .of_compile hopen hplain hdrops hst⟩, rfl⟩
  obtain ⟨err, herr⟩ | ⟨f, hf, segments, hwritten, hsegments⟩ := huniform
  · -- Nothing is compiled then, so there is nothing to be said of any statement.
    refine ⟨[], fun inner st hopen hplain hst => ?_⟩
    obtain ⟨w, rfl⟩ := hmember inner st hopen hplain hst
    obtain ⟨f, hf, -, -⟩ := Statement.of_eq_ok hst
    cases hf.symm.trans (herr w)
  · refine ⟨segments, fun inner st hopen hplain hst => ?_⟩
    obtain ⟨w, rfl⟩ := hmember inner st hopen hplain hst
    have hpieces := (statementPieces_of_ok (hf w)).trans (hsegments w)
    obtain ⟨htext, hparameters, -⟩ := Statement.of_pieces hst
    rw [hpieces] at htext hparameters
    have halone : spot.drops = false → ∃ alone, w.1.compile d = .ok alone := by
      intro hdrops
      have hstands := (w.2.2 hdrops).alone
      rwa [Spot.dialect_place] at hstands
    refine ⟨htext, hparameters, halone, fun before after hsplit => ?_⟩
    have hdrops : spot.drops = false := by
      simpa using hwritten (hsplit ▸ List.mem_append_right before List.mem_cons_self)
    obtain ⟨alone, hcompile⟩ := halone hdrops
    refine ⟨alone, hcompile, Statement.embeds_of_pieces hst hcompile ?_⟩
    rw [hpieces, hsplit, assemble_append]
    rfl

/-- Parts without a query are the same for all queries. -/
lemma assemble_of_not_mem {segments : List Segment} (h : .subquery ∉ segments)
    (ps qs : List Piece) : assemble ps segments = assemble qs segments := by
  induction segments with
  | nil => rfl
  | cons s segments ih =>
    rw [List.mem_cons, not_or] at h
    cases s with
    | piece p => exact congrArg (p :: ·) (ih h.2)
    | subquery => exact absurd rfl h.1

/-- The shelves of the books with numbers below another. -/
def shelvesBelow (n : Int64) : Query :=
  { Query.all bookTable ⟨1⟩ with
    predicate := some (.binary .lessThan (.column ⟨⟨1⟩, 0⟩) (.value (.int n)))
    projection := [1] }

/-- One side of an exclusive or, of which the other side asks for the fourth shelf. -/
def besideFourth : Spot :=
  [.right .exclusiveOr (.binary .equal (.column ⟨⟨0⟩, 0⟩) (.value (.int 4)))]

/-- The statement of the shelves of which either the number is four or a book has a number below
another. -/
def eitherStatement (n : Int64) : Statement where
  text := "SELECT * FROM [shelves] WHERE (((" ++
    "(CASE WHEN ([id] = $p1) THEN 1 ELSE 0 END) | (CASE WHEN " ++
    "([id] IN (SELECT [shelf] FROM [books] WHERE ([id] < $p2))) THEN 1 ELSE 0 END)) - " ++
    "((CASE WHEN ([id] = $p3) THEN 1 ELSE 0 END) & (CASE WHEN " ++
    "([id] IN (SELECT [shelf] FROM [books] WHERE ([id] < $p4))) THEN 1 ELSE 0 END))) = 1)"
  parameters := [.int 4, .int n, .int 4, .int n]

set_option maxRecDepth 8000 in
/-- The shelves of books stand in the statement of either shelves, as numbers below nine and below
ten give different parameters. -/
theorem membership_embeds_shelves :
    ∃ before after, (eitherStatement 9).Embeds .sqlite
      ⟨"SELECT [shelf] FROM [books] WHERE ([id] < $p1)", [.int 9]⟩ before after := by
  have hst : ∀ n : Int64, n = 9 ∨ n = 10 → ((Query.all shelfTable ⟨0⟩).filteredBy
      (besideFourth.fill (.inSubquery (.column ⟨⟨0⟩, 0⟩) (shelvesBelow n)))).compile .sqlite =
        .ok (eitherStatement n) := by
    rintro n (rfl | rfl) <;> rfl
  have halone : (shelvesBelow 9).compile .sqlite =
      .ok ⟨"SELECT [shelf] FROM [books] WHERE ([id] < $p1)", [.int 9]⟩ := rfl
  obtain ⟨segments, h⟩ := membership_embeds .sqlite (Query.all shelfTable ⟨0⟩) besideFourth
    (.column ⟨⟨0⟩, 0⟩)
  obtain ⟨-, hnine, -, hembeds⟩ := h (shelvesBelow 9) _ rfl rfl (hst 9 (.inl rfl))
  obtain ⟨-, hten, -, -⟩ := h (shelvesBelow 10) _ rfl rfl (hst 10 (.inr rfl))
  have hmem : .subquery ∈ segments := by
    by_contra hmem
    rw [assemble_of_not_mem hmem _ (statementPieces .sqlite (shelvesBelow 10)), ← hten] at hnine
    have hbound : (9 : Int64) = 10 := Value.int.inj (List.cons.inj (List.cons.inj hnine).2).1
    exact absurd hbound (by decide)
  obtain ⟨before, after, hsplit⟩ := List.append_of_mem hmem
  obtain ⟨alone, hcompile, hall⟩ := hembeds before after hsplit
  cases halone.symm.trans hcompile
  exact ⟨_, _, hall⟩

end TableQuery.Sql
