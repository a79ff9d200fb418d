import TableQuery.Proofs.Renaming.Forms
import TableQuery.Proofs.Schema.Index
import TableQuery.Proofs.Sharing

/-!
# The identities of rows leave no trace

Rows may be named in any way that keeps them apart (`Naming`).  Over all namings at once, the steps
of a compilation are uniform and their pieces do not vary; and what a statement binds can be read
off its pieces.  So a query compiles to one statement however its rows are named (`compile_rename`).
-/

namespace TableQuery.Sql

open Emit (Uniform)

/-- New names for rows, in which different rows have different names. -/
abbrev Naming : Type := { f : SourceId → SourceId // Function.Injective f }

/-- The names that rows have already. -/
def Naming.given : Naming := ⟨id, Function.injective_id⟩

/-- A naming varies no place but in the names of its rows. -/
def Naming.variation (n : Naming) : Variation := ⟨n.1, []⟩

variable {d : Dialect}

/-- An injective renaming with no more rows spares all references. -/
lemma Naming.spares (n : Naming) (refs : List ColumnRef) : n.variation.Spares refs :=
  ⟨n.2, fun _ _ => List.forall_mem_nil _⟩

/-- There are the same rows around in all namings. -/
lemma Naming.alike : Alike Naming.variation .given := fun _ => rfl

/-- The context of a renamed query. -/
lemma Context.top_rename (d : Dialect) (q : Query) (n : Naming) :
    Context.top d (q.rename n.1) = (Context.top d q).vary n.variation := by
  cases q
  rfl

/-- A filter is uniform over all namings. -/
lemma queryFilter_rename (q : Query) (ctx : Context) :
    UniformFilter ctx.dialect Fixed fun n : Naming =>
      queryFilter (q.rename n.1) (ctx.vary n.variation) := by
  have hfollow : FollowFilter (Alike Naming.variation .given) Naming.given ctx.dialect fun n =>
      queryFilter (q.rename n.1) (ctx.vary n.variation) :=
    queryFilter_vary (fun _ => List.Subset.refl _) q ctx fun n => n.spares _
  exact hfollow.uniform (.inl Naming.alike)

/-- The pieces of a family of fragments do not vary. -/
def Unvarying {W : Type} (d : Dialect) (f : W → Fragment) : Prop := Fixed fun w => (f w).pieces d

/-- The statement of a query does not depend on how rows are named. -/
lemma ofQuery_rename (d : Dialect) (q : Query) :
    Uniform (fun n : Naming => ofQuery d (q.rename n.1)) (Unvarying d) := by
  unfold ofQuery
  simp only [Context.top_rename]
  have hselect : Uniform (fun n : Naming => Select.of ((Context.top d q).vary n.variation)
      (q.rename n.1) (queryFilter (q.rename n.1) ((Context.top d q).vary n.variation)))
      (Selects d Fixed) :=
    Select.of_vary (fun n => n.2) rfl (queryFilter_rename q (Context.top d q))
  exact hselect.bind fun _ hs => .pure hs

/-- The text of an expression does not depend on how rows are named. -/
lemma ofExpr_rename (d : Dialect) (q : Query) (e : Expr) :
    Uniform (fun n : Naming => ofExpr d (q.rename n.1) (e.rename n.1)) (Unvarying d) := by
  have hfollow : FollowForms (Alike Naming.variation .given ∨ e.isConst = true) Naming.given d
      fun n => formsOf (e.rename n.1) ((Context.top d q).vary n.variation) :=
    formsOf_vary (fun _ => List.Subset.refl _) e (Context.top d q) fun n => n.spares _
  unfold ofExpr
  simp only [Context.top_rename, e.isPredicate_rename]
  refine .ite ?_ ?_
  · exact (hfollow.1.uniform (.inl Naming.alike)).bind fun _ hc => .pure hc
  · exact (hfollow.2.uniform (.inl Naming.alike)).bind fun _ hx => .pure hx

/-- Requests of a uniform family whose pieces do not vary compile to one statement, or fail with one
error. -/
lemma Statement.of_unvarying {W : Type} {r : W → Request}
    (h : Uniform (fun w => (r w).emit d) (Unvarying d)) (w w' : W) :
    Statement.of d ((r w).emit d) = Statement.of d ((r w').emit d) := by
  unfold Statement.of
  -- A step is compared by its result alone; what it binds is read off the pieces.
  obtain ⟨err, herr⟩ | ⟨f, hf, hpieces⟩ := h
  · rw [herr, herr]
    rfl
  · have hpieces : (f w).pieces d = (f w').pieces d := hpieces w w'
    have hbound : ((r w).emit d).bound = ((r w').emit d).bound := by
      rw [← (Request.scans (hf w)).2, ← (Request.scans (hf w')).2, hpieces]
    rw [hf, hf, hbound]
    simp only [Except.map, hpieces]

/-- Let the rows be renamed, all through a query, its operations and an expression, so that
different rows have different names.  Then the renamed operations build the renamed result, or fail
with the same error.  And in every dialect, the query, any expression over its row and what the
operations build compile to the same texts with the same parameters as before, or fail with the same
error. -/
theorem compile_rename {f : SourceId → SourceId} (hf : Function.Injective f) (q : Query)
    (os : List Operation) :
    (q.rename f).build (os.map (Operation.rename f)) = (q.build os).map (Query.rename f) ∧
      ∀ d : Dialect, (q.rename f).compile d = q.compile d ∧
        (∀ e : Expr, (e.rename f).compile d (q.rename f) = e.compile d q) ∧
        ((q.rename f).build (os.map (Operation.rename f))).bind (Query.compile d) =
          (q.build os).bind (Query.compile d) := by
  have hbuild := Query.build_rename (q := q) hf os
  have hcompile : ∀ (d : Dialect) (q : Query), (q.rename f).compile d = q.compile d := by
    intro d q
    have h := Statement.of_unvarying (r := fun n : Naming => .query (q.rename n.1))
      (ofQuery_rename d q) ⟨f, hf⟩ .given
    rwa [Naming.given, q.rename_id] at h
  refine ⟨hbuild, fun d => ⟨hcompile d q, fun e => ?_, ?_⟩⟩
  · have h := Statement.of_unvarying (r := fun n : Naming => .expr (q.rename n.1) (e.rename n.1))
      (ofExpr_rename d q e) ⟨f, hf⟩ .given
    rwa [Naming.given, q.rename_id, e.rename_id] at h
  · rw [hbuild]
    cases q.build os with
    | error err => rfl
    | ok built => exact hcompile d built

/-- A table of shelves. -/
def shelfTable : Table :=
  .of "shelves" [⟨"id", "Id", .int, false, true⟩] (by decide)

/-- A table of books, each on a shelf. -/
def bookTable : Table :=
  .of "books"
    [⟨"id", "Id", .int, false, true⟩, ⟨"shelf", "Shelf", .int, false, false⟩] (by decide)

/-- Two filters of shelves: there is a book on the shelf, and the shelf is that of a book with a
small number.  In the second filter, the row of books has the name of the row of shelves. -/
def shelfOperations : List Operation :=
  [⟨"Where", [.exists { Query.all bookTable ⟨1⟩ with
      predicate := some (.binary .equal (.column ⟨⟨1⟩, 1⟩) (.column ⟨⟨0⟩, 0⟩)) } none]⟩,
    ⟨"Where", [.inSubquery (.column ⟨⟨0⟩, 0⟩) { Query.all bookTable ⟨0⟩ with
      predicate := some (.binary .lessThan (.column ⟨⟨0⟩, 0⟩) (.value (.int 9)))
      projection := [1] }]⟩]

/-- The statement that the filters of shelves build. -/
def shelfStatement : Statement where
  text := "SELECT * FROM \"shelves\" WHERE (EXISTS (SELECT 1 FROM \"books\" WHERE " ++
    "(\"books\".\"shelf\" = \"shelves\".\"id\")) and (\"id\" IN (SELECT \"books\".\"shelf\" " ++
    "FROM \"books\" WHERE (\"books\".\"id\" < @p1))))"
  parameters := [.int 9]

/-- The names of rows counted on by seven. -/
def countedOn (s : SourceId) : SourceId := ⟨s.number + 7⟩

/-- To count on is injective. -/
lemma countedOn_injective : Function.Injective countedOn := by
  rintro ⟨m⟩ ⟨n⟩ h
  cases Nat.add_right_cancel (congrArg SourceId.number h)
  rfl

set_option maxRecDepth 8000 in
/-- With the names of rows counted on, the filters of shelves build the same statement. -/
theorem compile_rename_shelves :
    Function.Injective countedOn ∧
      ((Query.all shelfTable ⟨7⟩).build (shelfOperations.map (Operation.rename countedOn))).bind
        (Query.compile .postgreSql) = .ok shelfStatement := by
  have h : ((Query.all shelfTable ⟨0⟩).build shelfOperations).bind (Query.compile .postgreSql) =
    .ok shelfStatement := by rfl
  refine ⟨countedOn_injective, ?_⟩
  rw [← h]
  exact ((compile_rename countedOn_injective (Query.all shelfTable ⟨0⟩) shelfOperations).2
    .postgreSql).2.2

end TableQuery.Sql
