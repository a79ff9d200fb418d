import TableQuery.Proofs.Tree.Written

/-!
# Columns in trees

The columns in a tree, in the order of its text, each with the tables that it may be read from
(`Select.uses`).  In a tree that is written as it should be, all of them satisfy the condition on
columns (`Select.uses_ok`).
-/

namespace TableQuery.Sql

/-- A column in a tree, and the tables that it may be read from, innermost first. -/
structure Use where
  chain : List From
  column : ColumnName

/-- The names of tables. -/
def tableNames (chain : List From) : List String := chain.map From.table

mutual

/-- The columns in a value. -/
def Scalar.uses (chain : List From) : Scalar → List Use
  | .null | .number _ | .truth _ | .text _ | .param _ | .dateFirst | .localTimestamp => []
  | .column c => [⟨chain, c⟩]
  | .call _ args => listUses chain args
  | .cast x _ | .extract _ x | .extractWeekday x | .datePart _ x | .datePartWeekday x
  | .interval _ x | .atTimeZone x _ | .negate x | .complement x | .paren x => x.uses chain
  | .dateAdd _ x y | .operator _ x y | .concat x y => x.uses chain ++ y.uses chain
  | .case test yes no => test.uses chain ++ yes.uses chain ++ no.uses chain

/-- The columns in several values. -/
def listUses (chain : List From) : List Scalar → List Use
  | [] => []
  | x :: xs => x.uses chain ++ listUses chain xs

/-- The columns in a condition. -/
def Cond.uses (chain : List From) : Cond → List Use
  | .compare _ x y | .like x y _ => x.uses chain ++ y.uses chain
  | .and l r | .or l r => l.uses chain ++ r.uses chain
  | .not c | .paren c => c.uses chain
  | .isNull x | .isNotNull x => x.uses chain
  | .inList x members => x.uses chain ++ listUses chain members
  | .inSelect x s => x.uses chain ++ s.uses chain
  | .exists s => s.uses chain

/-- The columns in the conditions of a statement. -/
def filterUses (chain : List From) : List Cond → List Use
  | [] => []
  | c :: cs => c.uses chain ++ filterUses chain cs

/-- The columns in what a statement reads. -/
def Source.uses (chain : List From) : Source → List Use
  | .table .. => []
  | .derived s _ => s.uses chain

/-- The columns in a statement.  They may also be read from its own table. -/
def Select.uses (chain : List From) : Select → List Use
  | ⟨_, _, output, source, filters, order, _⟩ =>
    output.names.map (fun c => ⟨source.froms ++ chain, c⟩) ++ source.uses chain ++
      filterUses (source.froms ++ chain) filters ++
      order.map (fun t => ⟨source.froms ++ chain, t.column⟩)

end

/-- The columns in a statement: those it returns, those in what it reads, those in its conditions,
and those it sorts by. -/
lemma Select.uses_eq (chain : List From) (s : Select) :
    s.uses chain = s.output.names.map (fun c => ⟨s.source.froms ++ chain, c⟩) ++
      s.source.uses chain ++ filterUses (s.source.froms ++ chain) s.filters ++
      s.order.map (fun t => ⟨s.source.froms ++ chain, t.column⟩) := by
  cases s
  rfl

section Conditions

variable {ok : List From → ColumnName → Prop}

mutual

/-- The columns in a value satisfy the condition. -/
theorem Scalar.uses_ok (chain : List From) :
    (x : Scalar) → x.Written ok chain → ∀ u ∈ x.uses chain, ok u.chain u.column
  | .null, _ | .number _, _ | .truth _, _ | .text _, _ | .param _, _ | .dateFirst, _
  | .localTimestamp, _ => nofun
  | .column c, h => List.forall_mem_singleton.mpr h
  | .call _ args, h => listUses_ok chain args h
  | .cast x _, h | .extract _ x, h | .extractWeekday x, h | .datePart _ x, h
  | .datePartWeekday x, h | .interval _ x, h | .paren x, h => Scalar.uses_ok chain x h
  | .atTimeZone x _, h => Scalar.uses_ok chain x h.1.2
  | .negate x, h | .complement x, h => Scalar.uses_ok chain x h.2
  | .dateAdd _ n x, h =>
    List.forall_mem_append.mpr ⟨Scalar.uses_ok chain n h.1, Scalar.uses_ok chain x h.2⟩
  | .operator _ l r, h =>
    List.forall_mem_append.mpr ⟨Scalar.uses_ok chain l h.2.1.2, Scalar.uses_ok chain r h.2.2.2⟩
  | .concat l r, h =>
    List.forall_mem_append.mpr ⟨Scalar.uses_ok chain l h.1.2, Scalar.uses_ok chain r h.2.2⟩
  | .case test yes no, h => by
    have hbefore := List.forall_mem_append.mpr
      ⟨Cond.uses_ok chain test h.1.2, Scalar.uses_ok chain yes h.2.1⟩
    exact List.forall_mem_append.mpr ⟨hbefore, Scalar.uses_ok chain no h.2.2⟩

/-- The columns in several values satisfy the condition. -/
theorem listUses_ok (chain : List From) :
    (xs : List Scalar) → scalarsWritten ok chain xs → ∀ u ∈ listUses chain xs, ok u.chain u.column
  | [], _ => nofun
  | x :: xs, h => List.forall_mem_append.mpr ⟨Scalar.uses_ok chain x h.1, listUses_ok chain xs h.2⟩

/-- The columns in a condition satisfy the condition on columns. -/
theorem Cond.uses_ok (chain : List From) :
    (c : Cond) → c.Written ok chain → ∀ u ∈ c.uses chain, ok u.chain u.column
  | .compare _ l r, h =>
    List.forall_mem_append.mpr ⟨Scalar.uses_ok chain l h.2.1.2, Scalar.uses_ok chain r h.2.2.2⟩
  | .and l r, h | .or l r, h =>
    List.forall_mem_append.mpr ⟨Cond.uses_ok chain l h.1.2, Cond.uses_ok chain r h.2.2⟩
  | .not c, h => Cond.uses_ok chain c h.2
  | .paren c, h => Cond.uses_ok chain c h
  | .isNull x, h | .isNotNull x, h => Scalar.uses_ok chain x h.2
  | .inList x members, h =>
    List.forall_mem_append.mpr ⟨Scalar.uses_ok chain x h.1.2, listUses_ok chain members h.2⟩
  | .inSelect x s, h =>
    List.forall_mem_append.mpr ⟨Scalar.uses_ok chain x h.1.2, Select.uses_ok chain s h.2⟩
  | .like x pattern _, h =>
    List.forall_mem_append.mpr ⟨Scalar.uses_ok chain x h.1.2, Scalar.uses_ok chain pattern h.2.2⟩
  | .exists s, h => Select.uses_ok chain s h

/-- The columns in the conditions of a statement satisfy the condition on columns. -/
theorem filterUses_ok (chain : List From) :
    (cs : List Cond) → filtersWritten ok chain cs → ∀ u ∈ filterUses chain cs, ok u.chain u.column
  | [], _ => nofun
  | c :: cs, h =>
    List.forall_mem_append.mpr ⟨Cond.uses_ok chain c h.1.2, filterUses_ok chain cs h.2⟩

/-- The columns in what a statement reads satisfy the condition. -/
theorem Source.uses_ok (chain : List From) :
    (s : Source) → s.Written ok chain → ∀ u ∈ s.uses chain, ok u.chain u.column
  | .table .., _ => nofun
  | .derived s _, h => Select.uses_ok chain s h

/-- The columns in a statement satisfy the condition. -/
theorem Select.uses_ok (chain : List From) :
    (s : Select) → s.Written ok chain → ∀ u ∈ s.uses chain, ok u.chain u.column
  | ⟨_, _, output, source, filters, order, _⟩, h => by
    rw [Select.uses]
    simp only [List.forall_mem_append, List.forall_mem_map]
    exact ⟨⟨⟨h.1, Source.uses_ok chain source h.2.1⟩,
      filterUses_ok (source.froms ++ chain) filters h.2.2.1⟩, h.2.2.2⟩

end

end Conditions

end TableQuery.Sql
