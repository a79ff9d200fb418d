import Mathlib.Data.List.Pairwise
import Mathlib.Tactic.Lemma
import TableQuery.Schema.Table

/-!
# Consistent descriptions

What is wrong with a table description is told by its columns alone: each is compared with those
before it, and the first that breaks a rule gives the fault (`Schema.fault?`).  There is none just
if no name is empty and no two columns clash (`Schema.fault?_eq_none`), so if names and members are
distinct and there is at most one key (`Schema.consistent_iff`).
-/

namespace TableQuery

/-- Whether two columns cannot stand in one table. -/
def Column.Clash (b c : Column) : Prop :=
  b.name = c.name ∨ b.member = c.member ∨ b.primaryKey = true ∧ c.primaryKey = true

/-- Whether a column has a name and a member. -/
def Column.Named (c : Column) : Prop := c.name ≠ "" ∧ c.member ≠ ""

namespace Schema

/-- The rule that a column breaks, given the columns before it. -/
def columnFault? (table : String) (before : List Column) (c : Column) : Option SchemaFault :=
  if c.name = "" ∨ c.member = "" then some (.emptyColumnName before.length table)
  else if before.any (fun b => b.name == c.name) then some (.duplicateColumn c.name table)
  else
    match c.primaryKey, before.findIdx? (·.primaryKey) with
    | true, some first => some (.severalPrimaryKeys table first before.length)
    | _, _ =>
      if before.any (fun b => b.member == c.member) then some (.duplicateMember c.member table)
      else none

/-- The first rule that a column breaks, given the columns before them. -/
def firstFault? (table : String) (before : List Column) : List Column → Option SchemaFault
  | [] => none
  | c :: rest => columnFault? table before c <|> firstFault? table (before ++ [c]) rest

/-- What is wrong with a table description. -/
def fault? (table : String) (columns : List Column) : Option SchemaFault :=
  if table = "" then some .emptyTableName else firstFault? table [] columns

/-- Whether a description is consistent: no name is empty, names and members are distinct, and at
most one column is the key. -/
structure Consistent (table : String) (cs : List Column) : Prop where
  name : table ≠ ""
  named : ∀ c ∈ cs, c.name ≠ "" ∧ c.member ≠ ""
  names : (cs.map Column.name).Nodup
  members : (cs.map Column.member).Nodup
  key : cs.countP (·.primaryKey) ≤ 1

variable {table : String} {before cs : List Column} {c : Column}

/-- A column breaks no rule just if it has its names and clashes with no column before it. -/
lemma columnFault?_eq_none :
    columnFault? table before c = none ↔ c.Named ∧ ∀ b ∈ before, ¬ b.Clash c := by
  simp only [columnFault?, List.any_eq_true, beq_iff_eq]
  by_cases hnamed : c.name = "" ∨ c.member = ""
  · rw [if_pos hnamed]
    exact iff_of_false nofun fun h => hnamed.elim h.1.1 h.1.2
  by_cases hname : ∃ b ∈ before, b.name = c.name
  · rw [if_neg hnamed, if_pos hname]
    obtain ⟨b, hb, heq⟩ := hname
    exact iff_of_false nofun fun h => h.2 b hb (.inl heq)
  rw [if_neg hnamed, if_neg hname]
  split
  next first hkey hfirst =>
    have hsome : (before.findIdx? (·.primaryKey)).isSome = true := by rw [hfirst]; rfl
    obtain ⟨b, hb, hbkey⟩ := List.any_eq_true.mp (List.findIdx?_isSome ▸ hsome)
    exact iff_of_false nofun fun h => h.2 b hb (.inr (.inr ⟨hbkey, hkey⟩))
  next hkeys =>
    by_cases hmember : ∃ b ∈ before, b.member = c.member
    · rw [if_pos hmember]
      obtain ⟨b, hb, heq⟩ := hmember
      exact iff_of_false nofun fun h => h.2 b hb (.inr (.inl heq))
    · rw [if_neg hmember]
      refine iff_of_true rfl ⟨not_or.mp hnamed, fun b hb hclash => ?_⟩
      rcases hclash with heq | heq | ⟨hbkey, hkey⟩
      · exact hname ⟨b, hb, heq⟩
      · exact hmember ⟨b, hb, heq⟩
      · -- The key would have been found among the columns before.
        have hsome : (before.findIdx? (·.primaryKey)).isSome = true := by
          rw [List.findIdx?_isSome]
          exact List.any_eq_true.mpr ⟨b, hb, hbkey⟩
        obtain ⟨first, hfirst⟩ := Option.isSome_iff_exists.mp hsome
        exact hkeys first hkey hfirst

/-- Columns break no rule just if they all have their names and none clashes with one before it. -/
lemma firstFault?_eq_none :
    firstFault? table before cs = none ↔
      (∀ c ∈ cs, c.Named) ∧ (∀ b ∈ before, ∀ c ∈ cs, ¬ b.Clash c) ∧
        cs.Pairwise fun b c => ¬ b.Clash c := by
  induction cs generalizing before with
  | nil =>
    exact iff_of_true rfl ⟨List.forall_mem_nil _, fun _ _ => List.forall_mem_nil _, .nil⟩
  | cons c cs ih =>
    have hsplit : firstFault? table before (c :: cs) = none ↔
        columnFault? table before c = none ∧ firstFault? table (before ++ [c]) cs = none := by
      rw [firstFault?]
      cases columnFault? table before c with
      | none => exact (and_iff_right rfl).symm
      | some fault => exact iff_of_false nofun nofun
    rw [hsplit, columnFault?_eq_none, ih, List.forall_mem_cons, List.pairwise_cons]
    constructor
    case mp =>
      rintro ⟨⟨hc, hbefore⟩, hcs, hrest, hpairs⟩
      obtain ⟨hrest, hlast⟩ := List.forall_mem_append.mp hrest
      refine ⟨⟨hc, hcs⟩, fun b hb => ?_, List.forall_mem_singleton.mp hlast, hpairs⟩
      exact List.forall_mem_cons.mpr ⟨hbefore b hb, hrest b hb⟩
    case mpr =>
      rintro ⟨⟨hc, hcs⟩, hbefore, hlast, hpairs⟩
      refine ⟨⟨hc, fun b hb => (List.forall_mem_cons.mp (hbefore b hb)).1⟩, hcs, ?_, hpairs⟩
      refine List.forall_mem_append.mpr ⟨fun b hb => ?_, List.forall_mem_singleton.mpr hlast⟩
      exact (List.forall_mem_cons.mp (hbefore b hb)).2

/-- A description is consistent just if the table has a name, the columns have theirs, and no two of
them clash. -/
theorem fault?_eq_none :
    fault? table cs = none ↔
      table ≠ "" ∧ (∀ c ∈ cs, c.Named) ∧ cs.Pairwise fun b c => ¬ b.Clash c := by
  rw [fault?]
  by_cases h : table = ""
  · rw [if_pos h]
    exact iff_of_false nofun fun h' => h'.1 h
  · rw [if_neg h, firstFault?_eq_none]
    constructor
    case mp =>
      rintro ⟨hnamed, -, hpairs⟩
      exact ⟨h, hnamed, hpairs⟩
    case mpr =>
      rintro ⟨-, hnamed, hpairs⟩
      exact ⟨hnamed, List.forall_mem_nil _, hpairs⟩

/-- No two of several columns are keys just if at most one is. -/
lemma pairwise_not_keys :
    (cs.Pairwise fun b c => ¬ (b.primaryKey = true ∧ c.primaryKey = true)) ↔
      cs.countP (·.primaryKey) ≤ 1 := by
  induction cs with
  | nil => exact iff_of_true .nil (Nat.zero_le 1)
  | cons c cs ih =>
    rw [List.pairwise_cons, ih]
    cases hkey : c.primaryKey with
    | false =>
      rw [List.countP_cons_of_neg (by simp [hkey])]
      exact and_iff_right fun _ _ h => nomatch h.1
    | true =>
      have hnone : (∀ b ∈ cs, ¬ (true = true ∧ b.primaryKey = true)) ↔
          cs.countP (·.primaryKey) = 0 := by
        rw [List.countP_eq_zero]
        exact forall₂_congr fun b _ => not_congr (and_iff_right rfl)
      rw [List.countP_cons_of_pos hkey, hnone]
      constructor
      · rintro ⟨h, -⟩
        exact Nat.succ_le_succ (Nat.le_of_eq h)
      · intro h
        have hzero : cs.countP (·.primaryKey) = 0 := Nat.le_zero.mp (Nat.le_of_succ_le_succ h)
        exact ⟨hzero, Nat.le_trans (Nat.le_of_eq hzero) (Nat.zero_le 1)⟩

/-- The columns do not clash just if their names and members are distinct and at most one is the
key. -/
lemma pairwise_not_clash :
    (cs.Pairwise fun b c => ¬ b.Clash c) ↔
      (cs.map Column.name).Nodup ∧ (cs.map Column.member).Nodup ∧
        cs.countP (·.primaryKey) ≤ 1 := by
  simp only [Column.Clash, not_or, List.pairwise_and_iff, pairwise_not_keys,
    List.nodup_iff_pairwise_ne, List.pairwise_map, ne_eq]

/-- Columns without a fault are consistent. -/
theorem consistent_iff : fault? table cs = none ↔ Consistent table cs := by
  rw [fault?_eq_none, pairwise_not_clash]
  constructor
  case mp =>
    rintro ⟨hname, hnamed, hnames, hmembers, hkey⟩
    exact ⟨hname, hnamed, hnames, hmembers, hkey⟩
  case mpr =>
    rintro ⟨hname, hnamed, hnames, hmembers, hkey⟩
    exact ⟨hname, hnamed, hnames, hmembers, hkey⟩

end Schema

end TableQuery
