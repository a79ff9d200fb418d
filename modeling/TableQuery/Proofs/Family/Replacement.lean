import Mathlib.Data.List.Nodup
import TableQuery.Proofs.Emission.Shapes
import TableQuery.Sql.Forms

/-!
# Replaced literals

Every literal of an expression or a query has a path: the positions of the operands that lead to it,
the innermost first.  A replacement gives each literal another value, by its path
(`Expr.replace`, `Query.replace`).

A literal is free if it is an operand or a member of something that is not constant, and nothing
depends on its value: it is compared with something that is not constant, computed with, chosen by a
condition, an argument of a call that does not read its value, or a member of a list.  A replacement
is allowed to give a free literal another value of the same storage class, and no other literal
(`Replacement.Allows`).

What decides on the text of a statement commutes with replacements: whether an expression is
constant, its storage class, its columns, and what it is called in messages.
-/

namespace TableQuery

/-- The position of an operand in the expression around it, and so on outward. -/
abbrev Path := List Nat

/-- A literal: where it stands, its value, and whether it is free. -/
structure Literal where
  path : Path
  value : Value
  free : Bool

/-- A value for every literal, given the path and the value of the literal. -/
abbrev Replacement := Path → Value → Value

namespace Replacement

/-- The replacement that leaves all literals as they are. -/
def keep : Replacement := fun _ v => v

/-- A replacement gives a free literal a value of the same storage class, and leaves any other as it
is. -/
def Allows (r : Replacement) (l : Literal) : Prop :=
  if l.free then (r l.path l.value).type? = l.value.type? else r l.path l.value = l.value

/-- Literals may stay as they are. -/
lemma allows_keep (l : Literal) : keep.Allows l := by
  unfold Allows
  split
  · rfl
  · rfl

/-- The storage class of a literal stays the same. -/
lemma Allows.type? {r : Replacement} {l : Literal} (h : r.Allows l) :
    (r l.path l.value).type? = l.value.type? := by
  unfold Allows at h
  split at h
  · exact h
  · rw [h]

/-- Literals that are not free stay as they are. -/
lemma Allows.fixed {r : Replacement} {p : Path} {v : Value} (h : r.Allows ⟨p, v, false⟩) :
    r p v = v := h

end Replacement

mutual

/-- An expression with its literals replaced. -/
def Expr.replace (r : Replacement) : Path → Expr → Expr
  | p, .value v => .value (r p v)
  | _, .column ref => .column ref
  | p, .unary op e => .unary op (e.replace r (0 :: p))
  | p, .binary op left right => .binary op (left.replace r (0 :: p)) (right.replace r (1 :: p))
  | p, .cast e ty implicit => .cast (e.replace r (0 :: p)) ty implicit
  | p, .conditional test yes no =>
    .conditional (test.replace r (0 :: p)) (yes.replace r (1 :: p)) (no.replace r (2 :: p))
  | p, .call func args => .call func (listReplace r p 0 args)
  | p, .inList e members =>
    .inList (e.replace r (0 :: p)) (members.mapIdx fun i v => r (i :: 1 :: p) v)
  | p, .inSubquery e q => .inSubquery (e.replace r (0 :: p)) (q.replace r (1 :: p))
  | p, .exists q condition => .exists (q.replace r (0 :: p)) (optionReplace r (1 :: p) condition)

/-- Several expressions with their literals replaced, where the first has position `i`. -/
def listReplace (r : Replacement) (p : Path) : Nat → List Expr → List Expr
  | _, [] => []
  | i, e :: es => e.replace r (i :: p) :: listReplace r p (i + 1) es

/-- An expression that may be absent, with its literals replaced. -/
def optionReplace (r : Replacement) : Path → Option Expr → Option Expr
  | _, none => none
  | p, some e => some (e.replace r p)

/-- A query with the literals of its filter replaced. -/
def Query.replace (r : Replacement) : Path → Query → Query
  | p, ⟨table, source, predicate, orderings, projection, skip, take, distinct, terminal⟩ =>
    ⟨table, source, optionReplace r p predicate, orderings, projection, skip, take, distinct,
      terminal⟩

end

mutual

/-- The literals of an expression, which is free itself if it is a literal. -/
def Expr.literals : Bool → Path → Expr → List Literal
  | free, p, .value v => [⟨p, v, free⟩]
  | _, _, .column _ => []
  | _, p, .unary _ e | _, p, .cast e _ _ => e.literals false (0 :: p)
  | _, p, .binary op left right =>
    left.literals (!op.isLogical && !right.isConst) (0 :: p) ++
      right.literals (!op.isLogical && !left.isConst) (1 :: p)
  | _, p, .conditional test yes no =>
    let free := !(Expr.conditional test yes no).isConst
    test.literals false (0 :: p) ++ yes.literals free (1 :: p) ++ no.literals free (2 :: p)
  | _, p, .call func args =>
    let varies := !(Expr.call func args).isConst
    listLiterals (fun i => varies && !(func.readsSecond && i == 1)) p 0 args
  | _, p, .inList e members =>
    e.literals false (0 :: p) ++ members.mapIdx fun i v => ⟨i :: 1 :: p, v, !e.isConst⟩
  | _, p, .inSubquery e q => e.literals false (0 :: p) ++ q.literals (1 :: p)
  | _, p, .exists q condition => q.literals (0 :: p) ++ optionLiterals (1 :: p) condition

/-- The literals of several expressions, where the first has position `i`.  Which of them are free
themselves depends on their positions. -/
def listLiterals (free : Nat → Bool) (p : Path) : Nat → List Expr → List Literal
  | _, [] => []
  | i, e :: es => e.literals (free i) (i :: p) ++ listLiterals free p (i + 1) es

/-- The literals of an expression that may be absent. -/
def optionLiterals : Path → Option Expr → List Literal
  | _, none => []
  | p, some e => e.literals false p

/-- The literals of the filter of a query. -/
def Query.literals : Path → Query → List Literal
  | p, { predicate, .. } => optionLiterals p predicate

end

section Paths

variable {p : Path} {i : Nat} {I J : Nat → Prop} {ks ls : List Literal}

/-- The paths of literals lead through the operand at a path, and no two are the same. -/
structure LeadThrough (p : Path) (ls : List Literal) : Prop where
  suffix : ∀ l ∈ ls, p <:+ l.path
  nodup : (ls.map Literal.path).Nodup

/-- The paths of literals lead through certain operands of the one at a path, and no two are the
same. -/
structure LeadAmong (I : Nat → Prop) (p : Path) (ls : List Literal) : Prop where
  suffix : ∀ l ∈ ls, ∃ i, I i ∧ (i :: p) <:+ l.path
  nodup : (ls.map Literal.path).Nodup

/-- Paths through one operand. -/
lemma LeadThrough.among (h : LeadThrough (i :: p) ls) : LeadAmong (· = i) p ls where
  suffix l hl := ⟨i, rfl, h.suffix l hl⟩
  nodup := h.nodup

/-- Paths through operands lead through the whole. -/
lemma LeadAmong.through (h : LeadAmong I p ls) : LeadThrough p ls where
  suffix l hl := by
    obtain ⟨i, -, hi⟩ := h.suffix l hl
    exact (List.suffix_cons i p).trans hi
  nodup := h.nodup

/-- Paths through different operands are different. -/
lemma LeadAmong.append (hk : LeadAmong I p ks) (hl : LeadAmong J p ls) (hIJ : ∀ i, I i → ¬J i) :
    LeadAmong (fun i => I i ∨ J i) p (ks ++ ls) where
  suffix := by
    refine List.forall_mem_append.mpr ⟨fun k hk' => ?_, fun l hl' => ?_⟩
    · obtain ⟨i, hi, hik⟩ := hk.suffix k hk'
      exact ⟨i, .inl hi, hik⟩
    · obtain ⟨j, hj, hjl⟩ := hl.suffix l hl'
      exact ⟨j, .inr hj, hjl⟩
  nodup := by
    rw [List.map_append, List.nodup_append]
    refine ⟨hk.nodup, hl.nodup, fun a ha b hb hab => ?_⟩
    obtain ⟨k, hk', rfl⟩ := List.mem_map.mp ha
    obtain ⟨l, hl', rfl⟩ := List.mem_map.mp hb
    obtain ⟨i, hi, hik⟩ := hk.suffix k hk'
    obtain ⟨j, hj, hjl⟩ := hl.suffix l hl'
    rw [hab] at hik
    -- Both positions are the one that the path takes behind `p`.
    have hij := (List.suffix_of_suffix_length_le hik hjl (by simp)).eq_of_length (by simp)
    cases hij
    exact hIJ i hi hj

/-- The paths of the members of a list are different. -/
lemma leadThrough_members (p : Path) (members : List Value) (free : Bool) :
    LeadThrough p (members.mapIdx fun i v => ⟨i :: p, v, free⟩) where
  suffix l hl := by
    obtain ⟨i, hi, rfl⟩ := List.mem_mapIdx.mp hl
    exact List.suffix_cons i p
  nodup := by
    refine List.pairwise_iff_getElem.mpr fun i j hi hj hij h => ?_
    simp only [List.getElem_map, List.getElem_mapIdx, List.cons.injEq, and_true] at h
    omega

mutual

/-- The paths of the literals of an expression are different. -/
theorem Expr.leadThrough : (e : Expr) → (free : Bool) → (p : Path) →
    LeadThrough p (e.literals free p)
  | .value v, free, p => ⟨by simp [Expr.literals], by simp [Expr.literals]⟩
  | .column ref, free, p => ⟨by simp [Expr.literals], by simp [Expr.literals]⟩
  | .unary _ e, free, p | .cast e _ _, free, p => (e.leadThrough false (0 :: p)).among.through
  | .binary op left right, free, p => by
    have hl := (left.leadThrough (!op.isLogical && !right.isConst) (0 :: p)).among
    have hr := (right.leadThrough (!op.isLogical && !left.isConst) (1 :: p)).among
    exact (hl.append hr (by omega)).through
  | .conditional test yes no, free, p => by
    have ht := (test.leadThrough false (0 :: p)).among
    have hy := (yes.leadThrough (!(Expr.conditional test yes no).isConst) (1 :: p)).among
    have hn := (no.leadThrough (!(Expr.conditional test yes no).isConst) (2 :: p)).among
    exact ((ht.append hy (by omega)).append hn (by omega)).through
  | .call func args, free, p => (listLeadAmong args _ p 0).through
  | .inList e members, free, p => by
    have he := (e.leadThrough false (0 :: p)).among
    have hm := (leadThrough_members (1 :: p) members (!e.isConst)).among
    exact (he.append hm (by omega)).through
  | .inSubquery e q, free, p => by
    have he := (e.leadThrough false (0 :: p)).among
    have hq := (q.leadThrough (1 :: p)).among
    exact (he.append hq (by omega)).through
  | .exists q condition, free, p => by
    have hq := (q.leadThrough (0 :: p)).among
    have hc := (optionLeadThrough condition (1 :: p)).among
    exact (hq.append hc (by omega)).through

/-- The paths of the literals of several expressions are different. -/
theorem listLeadAmong : (es : List Expr) → (free : Nat → Bool) → (p : Path) → (i : Nat) →
    LeadAmong (i ≤ ·) p (listLiterals free p i es)
  | [], _, _, _ => ⟨List.forall_mem_nil _, List.nodup_nil⟩
  | e :: es, free, p, i => by
    have he := (e.leadThrough (free i) (i :: p)).among
    have hall := he.append (listLeadAmong es free p (i + 1)) (by omega)
    refine ⟨fun l hl => ?_, hall.nodup⟩
    obtain ⟨j, hj, hl⟩ := hall.suffix l hl
    exact ⟨j, by omega, hl⟩

/-- The paths of the literals of an expression that may be absent are different. -/
theorem optionLeadThrough : (o : Option Expr) → (p : Path) → LeadThrough p (optionLiterals p o)
  | none, _ => ⟨List.forall_mem_nil _, List.nodup_nil⟩
  | some e, p => e.leadThrough false p

/-- The paths of the literals of a query are different. -/
theorem Query.leadThrough : (q : Query) → (p : Path) → LeadThrough p (q.literals p)
  | ⟨_, _, predicate, _, _, _, _, _, _⟩, p => optionLeadThrough predicate p

end

/-- Since their paths are different, literals may be replaced each by itself. -/
theorem LeadThrough.exists_replacement (h : LeadThrough p ls) (f : Literal → Value) :
    ∃ r : Replacement, ∀ l ∈ ls, r l.path l.value = f l := by
  refine ⟨fun path v => ((ls.find? fun k => k.path == path).map f).getD v, fun l hl => ?_⟩
  have hfind : ls.find? (fun k => k.path == l.path) = some l := by
    cases hk : ls.find? fun k => k.path == l.path with
    | none =>
      have hnone := List.find?_eq_none.mp hk l hl
      exact absurd (beq_self_eq_true l.path) hnone
    | some k =>
      have hpath : (k.path == l.path) = true := by simpa using List.find?_some hk
      rw [List.inj_on_of_nodup_map h.nodup (List.mem_of_find?_eq_some hk) hl (eq_of_beq hpath)]
  simp only [hfind, Option.map_some, Option.getD_some]

end Paths

/-- A replacement is allowed for each of some literals. -/
def Replacement.AllowsAll (r : Replacement) (ls : List Literal) : Prop := ∀ l ∈ ls, r.Allows l

/-- A literal may have another value: one of the same storage class if it is free, and otherwise
only its own. -/
def Literal.Admits (l : Literal) (v : Value) : Prop :=
  if l.free then v.type? = l.value.type? else v = l.value

/-- However values are chosen that literals with different paths may have, an allowed replacement
gives each literal the value that is chosen for it. -/
theorem LeadThrough.exists_allowed {p : Path} {ls : List Literal} (h : LeadThrough p ls)
    (f : Literal → Value) (hf : ∀ l ∈ ls, l.Admits (f l)) :
    ∃ r : Replacement, r.AllowsAll ls ∧ ∀ l ∈ ls, r l.path l.value = f l := by
  obtain ⟨r, hr⟩ := h.exists_replacement f
  refine ⟨r, fun l hl => ?_, hr⟩
  unfold Replacement.Allows
  rw [hr l hl]
  exact hf l hl

/-- A replacement is allowed for the literals of two lists if it is for those of each. -/
lemma Replacement.allowsAll_append {r : Replacement} {ks ls : List Literal} :
    r.AllowsAll (ks ++ ls) ↔ r.AllowsAll ks ∧ r.AllowsAll ls := by
  simp only [AllowsAll, List.mem_append, or_imp, forall_and]

/-- Members that stay as they are make the same list. -/
lemma mapIdx_eq_self {members : List Value} {f : Nat → Value → Value}
    (h : ∀ i v, members[i]? = some v → f i v = v) : members.mapIdx f = members := by
  refine List.ext_getElem? fun i => ?_
  rw [List.getElem?_mapIdx]
  cases hv : members[i]? with
  | none => rfl
  | some v => rw [Option.map_some, h i v hv]

section Keep

mutual

/-- An expression whose literals stay as they are is the same. -/
theorem Expr.replace_keep : (e : Expr) → (p : Path) → e.replace .keep p = e
  | .value _, _ | .column _, _ => rfl
  | .unary op e, p => by rw [Expr.replace, e.replace_keep]
  | .binary op left right, p => by rw [Expr.replace, left.replace_keep, right.replace_keep]
  | .cast e ty implicit, p => by rw [Expr.replace, e.replace_keep]
  | .conditional test yes no, p => by
    rw [Expr.replace, test.replace_keep, yes.replace_keep, no.replace_keep]
  | .call func args, p => by rw [Expr.replace, listReplace_keep]
  | .inList e members, p => by
    rw [Expr.replace, e.replace_keep]
    exact congrArg (Expr.inList e) (mapIdx_eq_self fun _ _ _ => rfl)
  | .inSubquery e q, p => by rw [Expr.replace, e.replace_keep, q.replace_keep]
  | .exists q condition, p => by rw [Expr.replace, q.replace_keep, optionReplace_keep]

/-- Several expressions whose literals stay as they are, are the same. -/
theorem listReplace_keep : (es : List Expr) → (p : Path) → (i : Nat) →
    listReplace .keep p i es = es
  | [], _, _ => rfl
  | e :: es, p, i => by rw [listReplace, e.replace_keep, listReplace_keep]

/-- An expression that may be absent, whose literals stay as they are, is the same. -/
theorem optionReplace_keep : (o : Option Expr) → (p : Path) → optionReplace .keep p o = o
  | none, _ => rfl
  | some e, p => by rw [optionReplace, e.replace_keep]

/-- A query whose literals stay as they are is the same. -/
theorem Query.replace_keep : (q : Query) → (p : Path) → q.replace .keep p = q
  | ⟨_, _, predicate, _, _, _, _, _, _⟩, p => by rw [Query.replace, optionReplace_keep]

end

end Keep

section Decisions

variable {r : Replacement}

mutual

/-- Whether an expression is constant does not depend on its literals. -/
theorem Expr.isConst_replace : (e : Expr) → (p : Path) → (e.replace r p).isConst = e.isConst
  | .value _, _ | .column _, _ | .inSubquery .., _ | .exists .., _ => rfl
  | .unary _ e, p | .cast e _ _, p | .inList e _, p => e.isConst_replace (0 :: p)
  | .binary _ left right, p => by
    rw [Expr.replace, Expr.isConst, left.isConst_replace, right.isConst_replace, Expr.isConst]
  | .conditional test yes no, p => by
    rw [Expr.replace, Expr.isConst, test.isConst_replace, yes.isConst_replace, no.isConst_replace,
      Expr.isConst]
  | .call func args, p => by rw [Expr.replace, Expr.isConst, areConst_replace, Expr.isConst]

/-- Whether expressions are constant does not depend on their literals. -/
theorem areConst_replace : (es : List Expr) → (p : Path) → (i : Nat) →
    Expr.areConst (listReplace r p i es) = Expr.areConst es
  | [], _, _ => rfl
  | e :: es, p, i => by
    rw [listReplace, Expr.areConst, e.isConst_replace, areConst_replace, Expr.areConst]

end

mutual

/-- A constant whose literals are not free stays as it is. -/
theorem Expr.replace_const : (e : Expr) → (p : Path) → e.isConst = true →
    r.AllowsAll (e.literals false p) → e.replace r p = e
  | .value v, p, _, h => by
    rw [Expr.replace, (h _ List.mem_cons_self).fixed]
  | .column _, _, hc, _ | .inSubquery .., _, hc, _ | .exists .., _, hc, _ => by cases hc
  | .unary op e, p, hc, h => by rw [Expr.replace, e.replace_const (0 :: p) hc h]
  | .cast e ty implicit, p, hc, h => by rw [Expr.replace, e.replace_const (0 :: p) hc h]
  | .binary op left right, p, hc, h => by
    rw [Expr.isConst, Bool.and_eq_true] at hc
    rw [Expr.literals, hc.1, hc.2, Bool.not_true, Bool.and_false,
      Replacement.allowsAll_append] at h
    rw [Expr.replace, left.replace_const _ hc.1 h.1, right.replace_const _ hc.2 h.2]
  | .conditional test yes no, p, hc, h => by
    -- In a constant no literal is free, whatever stands around it.
    rw [Expr.literals, hc, Bool.not_true] at h
    simp only [Replacement.allowsAll_append] at h
    simp only [Expr.isConst, Bool.and_eq_true] at hc
    rw [Expr.replace, test.replace_const _ hc.1.1 h.1.1, yes.replace_const _ hc.1.2 h.1.2,
      no.replace_const _ hc.2 h.2]
  | .call func args, p, hc, h => by
    rw [Expr.literals, hc, Bool.not_true] at h
    simp only [Bool.false_and] at h
    rw [Expr.isConst, Bool.and_eq_true] at hc
    rw [Expr.replace, listReplace_const args p 0 hc.2 h]
  | .inList e members, p, hc, h => by
    have he : e.isConst = true := hc
    rw [Expr.literals, he, Bool.not_true, Replacement.allowsAll_append] at h
    rw [Expr.replace, e.replace_const _ he h.1]
    refine congrArg (Expr.inList e) (mapIdx_eq_self fun i v hv => ?_)
    refine (h.2 ⟨i :: 1 :: p, v, false⟩ ?_).fixed
    rw [List.mem_mapIdx]
    obtain ⟨hi, hv⟩ := List.getElem?_eq_some_iff.mp hv
    exact ⟨i, hi, by rw [hv]⟩

/-- Constants whose literals are not free stay as they are. -/
theorem listReplace_const : (es : List Expr) → (p : Path) → (i : Nat) →
    Expr.areConst es = true → r.AllowsAll (listLiterals (fun _ => false) p i es) →
      listReplace r p i es = es
  | [], _, _, _, _ => rfl
  | e :: es, p, i, hc, h => by
    rw [Expr.areConst, Bool.and_eq_true] at hc
    rw [listLiterals, Replacement.allowsAll_append] at h
    rw [listReplace, e.replace_const _ hc.1 h.1, listReplace_const es p (i + 1) hc.2 h.2]

end

/-- What an expression is called in messages stays the same. -/
lemma Expr.describe_replace {e : Expr} {p : Path} {free : Bool}
    (h : r.AllowsAll (e.literals free p)) : (e.replace r p).describe = e.describe := by
  cases e with
  | value v =>
    have hv := (h _ List.mem_cons_self).type?
    change s!"{(r p v).kindName} literal" = s!"{v.kindName} literal"
    rw [Value.kindName, hv, Value.kindName]
  | _ => rfl

/-- Whether an expression is a test does not depend on its literals. -/
lemma Expr.isPredicate_replace (e : Expr) (p : Path) :
    (e.replace r p).isPredicate = e.isPredicate := by
  cases e <;> rfl

/-- The storage class of an expression stays the same. -/
theorem Expr.inferType_replace (columnType : ColumnRef → Option ColumnType) :
    (e : Expr) → (p : Path) → (free : Bool) → r.AllowsAll (e.literals free p) →
      (e.replace r p).inferType columnType = e.inferType columnType
  | .value v, p, free, h => (h _ List.mem_cons_self).type?
  | .column _, _, _, _ | .cast .., _, _, _ | .inList .., _, _, _ | .inSubquery .., _, _, _
  | .exists .., _, _, _ => rfl
  | .unary op e, p, free, h => by
    have he := e.inferType_replace columnType (0 :: p) false h
    cases op with
    | not => rfl
    | negate | bitwiseNot => exact he
  | .binary op left right, p, free, h => by
    rw [Expr.literals, Replacement.allowsAll_append] at h
    simp only [Expr.replace, Expr.inferType, left.inferType_replace columnType _ _ h.1,
      right.inferType_replace columnType _ _ h.2]
  | .conditional test yes no, p, free, h => by
    simp only [Expr.literals, Replacement.allowsAll_append] at h
    simp only [Expr.replace, Expr.inferType, yes.inferType_replace columnType _ _ h.1.2,
      no.inferType_replace columnType _ _ h.2]
  | .call func [], p, free, h => rfl
  | .call func (e :: es), p, free, h => by
    simp only [Expr.literals, listLiterals, Replacement.allowsAll_append] at h
    simp only [Expr.replace, listReplace, Expr.inferType, e.inferType_replace columnType _ _ h.1]

mutual

/-- The columns of an expression do not depend on its literals. -/
theorem Expr.columns_replace : (e : Expr) → (p : Path) →
    (e.replace r p).leaves.filterMap Leaf.column? = e.leaves.filterMap Leaf.column?
  | .value _, _ | .column _, _ => rfl
  | .unary _ e, p | .cast e _ _, p | .inList e _, p => e.columns_replace (0 :: p)
  | .binary _ left right, p => by
    simp only [Expr.replace, Expr.leaves, List.filterMap_append, left.columns_replace,
      right.columns_replace]
  | .conditional test yes no, p => by
    simp only [Expr.replace, Expr.leaves, List.filterMap_append, test.columns_replace,
      yes.columns_replace, no.columns_replace]
  | .call _ args, p => listColumns_replace args p 0
  | .inSubquery e q, p => by
    simp only [Expr.replace, Expr.leaves, List.filterMap_append, e.columns_replace,
      q.columns_replace]
  | .exists q condition, p => by
    simp only [Expr.replace, Expr.leaves, List.filterMap_append, q.columns_replace,
      optionColumns_replace]

/-- The columns of several expressions do not depend on their literals. -/
theorem listColumns_replace : (es : List Expr) → (p : Path) → (i : Nat) →
    (listLeaves (listReplace r p i es)).filterMap Leaf.column? =
      (listLeaves es).filterMap Leaf.column?
  | [], _, _ => rfl
  | e :: es, p, i => by
    simp only [listReplace, listLeaves, List.filterMap_append, e.columns_replace,
      listColumns_replace es p (i + 1)]

/-- The columns of an expression that may be absent do not depend on its literals. -/
theorem optionColumns_replace : (o : Option Expr) → (p : Path) →
    (optionLeaves (optionReplace r p o)).filterMap Leaf.column? =
      (optionLeaves o).filterMap Leaf.column?
  | none, _ => rfl
  | some e, p => e.columns_replace p

/-- The columns of a query do not depend on its literals. -/
theorem Query.columns_replace : (q : Query) → (p : Path) →
    (q.replace r p).leaves.filterMap Leaf.column? = q.leaves.filterMap Leaf.column?
  | ⟨_, _, predicate, _, _, _, _, _, _⟩, p => optionColumns_replace predicate p

end

end Decisions

namespace Sql

variable {r : Replacement} {ctx : Context}

/-- Whether the filter of a query reads a row in reach does not depend on its literals. -/
lemma Context.isCorrelated_replace (q : Query) (p : Path) :
    ctx.isCorrelated (q.replace r p) = ctx.isCorrelated q := by
  obtain ⟨table, source, predicate, orderings, projection, skip, take, distinct, terminal⟩ := q
  cases predicate with
  | none => rfl
  | some e =>
    have hcolumns : (e.replace r p).columns = e.columns := e.columns_replace p
    simp only [Query.replace, optionReplace, isCorrelated, Expr.references, hcolumns]

/-- The place inside a query does not depend on the literals of the query. -/
lemma Context.enter_replace (q : Query) (p : Path) (qualify : Bool) :
    ctx.enter (q.replace r p) qualify = ctx.enter q qualify := by
  cases q
  rfl

/-- The place inside a query that may be qualified does not depend on the literals of the query. -/
lemma Context.inside_replace (q : Query) (p : Path) :
    ctx.inside (q.replace r p) = ctx.inside q := by
  rw [inside, isCorrelated_replace, enter_replace, inside]

/-- The storage class of what an implicit conversion is applied to. -/
lemma inferType_stripWidening_cast (e : Expr) (ty : ColumnType) :
    ctx.inferType (stripWidening ctx (.cast e ty true)) =
      (ctx.inferType (stripWidening ctx e)).map fun source =>
        if source.widensTo ty then source else ty := by
  rw [stripWidening]
  cases h : ctx.inferType (stripWidening ctx e) with
  | none => exact h
  | some source =>
    dsimp only
    split
    case isTrue hw => rw [h, Option.map_some, if_pos hw]
    case isFalse hw =>
      rw [Option.map_some, if_neg hw]
      rfl

/-- The storage class of an expression without implicit conversions stays the same. -/
theorem inferType_stripWidening_replace : (e : Expr) → (p : Path) → (free : Bool) →
    r.AllowsAll (e.literals free p) →
      ctx.inferType (stripWidening ctx (e.replace r p)) = ctx.inferType (stripWidening ctx e)
  | .cast e ty true, p, free, h => by
    rw [Expr.replace, inferType_stripWidening_cast, inferType_stripWidening_cast,
      inferType_stripWidening_replace e (0 :: p) false h]
  | .cast e ty false, p, free, h => rfl
  | .value v, p, free, h => Expr.inferType_replace ctx.columnType (.value v) p free h
  | .column ref, p, free, h => rfl
  | .unary op e, p, free, h => Expr.inferType_replace ctx.columnType (.unary op e) p free h
  | .binary op left right, p, free, h =>
    Expr.inferType_replace ctx.columnType (.binary op left right) p free h
  | .conditional test yes no, p, free, h =>
    Expr.inferType_replace ctx.columnType (.conditional test yes no) p free h
  | .call func args, p, free, h =>
    Expr.inferType_replace ctx.columnType (.call func args) p free h
  | .inList .., p, free, h | .inSubquery .., p, free, h | .exists .., p, free, h => rfl

/-- Whether a conversion is looked through stays the same. -/
lemma isWidening_replace {e : Expr} {p : Path} {free : Bool} {ty : ColumnType} {implicit : Bool}
    (h : r.AllowsAll (e.literals free p)) :
    isWidening ctx (e.replace r p) ty implicit = isWidening ctx e ty implicit := by
  rw [isWidening, inferType_stripWidening_replace e p free h, isWidening]

end Sql

end TableQuery
