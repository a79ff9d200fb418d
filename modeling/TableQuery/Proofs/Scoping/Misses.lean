import TableQuery.Proofs.Outcome.Compilation
import TableQuery.Proofs.Scoping.References

/-!
# Columns that are not found

If a query is not compiled because a column is not found, then there is a place in it where a column
is read that is not to be found there (`Query.misses`).  For a column that is not found is an error
about the rows in reach (`Cause.AboutRows`), and calls and operators make no such errors of their
own.
-/

namespace TableQuery

/-- An error says that a column is not found. -/
def Error.IsMiss (err : Error) : Prop :=
  ∃ member table, err.cause = .unresolvableMember member table

/-- That a column is not found is an error about rows. -/
lemma Error.IsMiss.aboutRows {err : Error} (h : err.IsMiss) : err.cause.AboutRows := by
  obtain ⟨member, table, hcause⟩ := h
  rw [hcause]
  trivial

namespace Sql

variable {ctx : Context}

/-- A name is not found only where it stands for a column that cannot be resolved. -/
lemma columnName_unresolved {ref : ColumnRef} {err : Error} (h : ctx.columnName ref = .error err) :
    ¬Site.Resolves ⟨ctx, ref⟩ := by
  rintro ⟨scope, column, hscope, hcolumn⟩
  cases h.symm.trans (Context.columnName_of_column? hscope hcolumn)

/-- If a query is not compiled because a column is not found, then there is a place in the query
where a column is read that cannot be resolved there. -/
theorem Query.misses {d : Dialect} {q : Query} {err : Error} (h : q.compile d = .error err)
    (hmiss : err.IsMiss) : ∃ s ∈ querySites q (Context.top d q), ¬s.Resolves := by
  have herr : CompileError d (.query q) err := Request.compileError_of_compile h
  cases herr with
  | part hpart => exact absurd hmiss.aboutRows hpart.not_aboutRows
  | column mem missing => exact ⟨_, mem, columnName_unresolved missing⟩
  | @subquery s =>
    obtain ⟨member, table, hcause⟩ := hmiss
    cases s <;> cases hcause
  | keys _ hkeys => exact absurd hmiss.aboutRows hkeys.not_aboutRows

end Sql

end TableQuery
