import Mathlib.Data.List.Forall2
import Mathlib.Data.List.Induction
import TableQuery.Proofs.Building.Recording
import TableQuery.Typed.Methods

/-!
# Faults that come to light later

Writing a term never fails, and a query that is used in it may be at fault.  Here the queries that a
term uses are listed in the order of writing, at any depth, each before the queries that its own
steps use (`Term.drafts`).  The term stands for an expression if and only if all of them are
queries, and otherwise its error is that of the first that is none (`Term.fault?_untyped`).

What a query records is the same by the arguments of its steps: it is all the operations, or the
error of the first argument that cannot be built, whatever is written after it.  A query that keeps
what it has recorded so far, or the first error, records the same (`recordedOperations_eq_foldl`).
-/

namespace TableQuery

section Faults

variable {α β : Type}

/-- The error of what fails. -/
def fault? : Except Error α → Option Error
  | .ok _ => none
  | .error e => some e

/-- What has no fault gives something. -/
lemma fault?_eq_none {x : Except Error α} : fault? x = none ↔ ∃ a, x = .ok a := by
  cases x <;> simp [fault?]

/-- What has a fault fails with it. -/
lemma fault?_eq_some {x : Except Error α} {e : Error} : fault? x = some e ↔ x = .error e := by
  cases x <;> simp [fault?]

/-- What comes second reports its error if the first does not fail. -/
lemma fault?_bind {x : Except Error α} {f : α → Except Error β} {o : Option Error}
    (h : ∀ a, fault? (f a) = o) : fault? (x >>= f) = (fault? x).or o := by
  cases x with
  | error e => rfl
  | ok a => exact h a

/-- After what fails, nothing is reported that can only succeed. -/
lemma fault?_bind_pure {x : Except Error α} {f : α → β} :
    fault? (x >>= fun a => Pure.pure (f a)) = fault? x := by
  cases x <;> rfl

end Faults

mutual

/-- The queries that a term uses, at any depth. -/
def Term.drafts : Term → List Draft
  | .path _ | .literal _ => []
  | .unary _ x | .inList x _ => x.drafts
  | .binary _ x y => x.drafts ++ y.drafts
  | .call _ args => draftsOf args
  | .thenElse test yes no => test.drafts ++ (yes.drafts ++ no.drafts)
  | .inQuery _ draft | .exists draft => draft.drafts
  | .existsWhere draft condition => draft.drafts ++ condition.drafts

/-- The queries that several terms use. -/
def draftsOf : List Term → List Draft
  | [] => []
  | x :: xs => x.drafts ++ draftsOf xs

/-- The queries that the arguments of a step use. -/
def Step.drafts : Step → List Draft
  | ⟨_, args⟩ => draftsOf args

/-- The queries that several steps use. -/
def stepDrafts : List Step → List Draft
  | [] => []
  | s :: ss => s.drafts ++ stepDrafts ss

/-- A query, and those that its steps use. -/
def Draft.drafts : Draft → List Draft
  | ⟨table, source, steps⟩ => ⟨table, source, steps⟩ :: stepDrafts steps

end

/-- What is wrong with a query. -/
def Draft.fault? (d : Draft) : Option Error := TableQuery.fault? d.query

/-- The error of the first query that is at fault. -/
def firstFault? (ds : List Draft) : Option Error := ds.findSome? Draft.fault?

/-- The first fault of two lists is that of the first list, if it has one. -/
lemma firstFault?_append (ds es : List Draft) :
    firstFault? (ds ++ es) = (firstFault? ds).or (firstFault? es) :=
  List.findSome?_append

mutual

/-- A term fails with the error of the first query that is at fault. -/
theorem Term.fault?_untyped : (x : Term) → fault? x.untyped = firstFault? x.drafts
  | .path _ | .literal _ => rfl
  | .unary _ x | .inList x _ => by
    rw [Term.untyped, Term.drafts, fault?_bind_pure]
    exact x.fault?_untyped
  -- The left term is untyped first, so its queries come first, whether or not the right one fails.
  | .binary _ x y => by
    rw [Term.untyped, Term.drafts, firstFault?_append, ← x.fault?_untyped]
    exact fault?_bind fun _ => fault?_bind_pure.trans y.fault?_untyped
  | .call _ args => by
    rw [Term.untyped, Term.drafts, fault?_bind_pure]
    exact fault?_untypedAll args
  | .thenElse test yes no => by
    rw [Term.untyped, Term.drafts, firstFault?_append, firstFault?_append, ← test.fault?_untyped,
      ← yes.fault?_untyped]
    exact fault?_bind fun _ => fault?_bind fun _ => fault?_bind_pure.trans no.fault?_untyped
  | .inQuery _ draft | .exists draft => by
    rw [Term.untyped, Term.drafts, fault?_bind_pure]
    exact draft.fault?_query
  | .existsWhere draft condition => by
    rw [Term.untyped, Term.drafts, firstFault?_append, ← draft.fault?_query]
    exact fault?_bind fun _ => fault?_bind_pure.trans condition.fault?_untyped

/-- Several terms fail with the error of the first query that is at fault. -/
theorem fault?_untypedAll : (xs : List Term) → fault? (untypedAll xs) = firstFault? (draftsOf xs)
  | [] => rfl
  | x :: xs => by
    rw [untypedAll, draftsOf, firstFault?_append, ← x.fault?_untyped]
    exact fault?_bind fun _ => fault?_bind_pure.trans (fault?_untypedAll xs)

/-- A step records nothing because of the first query that is at fault. -/
theorem Step.fault?_operation : (s : Step) → fault? s.operation = firstFault? s.drafts
  | ⟨_, args⟩ => by
    rw [Step.operation, Step.drafts, fault?_bind_pure]
    exact fault?_untypedAll args

/-- Several steps record nothing because of the first query that is at fault. -/
theorem fault?_recordedOperations :
    (ss : List Step) → fault? (recordedOperations ss) = firstFault? (stepDrafts ss)
  | [] => rfl
  | s :: ss => by
    rw [recordedOperations, stepDrafts, firstFault?_append, ← s.fault?_operation]
    exact fault?_bind fun _ => fault?_bind_pure.trans (fault?_recordedOperations ss)

/-- A query that is not at fault uses no query that is. -/
theorem Draft.fault?_query : (d : Draft) → fault? d.query = firstFault? d.drafts
  | ⟨table, source, steps⟩ => by
    rw [Draft.drafts, firstFault?, List.findSome?_cons]
    cases h : Draft.fault? ⟨table, source, steps⟩ with
    | some e => exact h
    | none =>
      obtain ⟨q, hq⟩ := fault?_eq_none.mp h
      rw [Draft.query, recordedQuery] at hq
      obtain ⟨t, -, hq⟩ := ok_of_bind hq
      obtain ⟨ops, hops, -⟩ := ok_of_bind hq
      have hsteps : firstFault? (stepDrafts steps) = none := by
        rw [← fault?_recordedOperations steps, hops]
        rfl
      exact h.trans hsteps.symm

end

/-- The conjunction of several tests uses what they use, in their order. -/
lemma Term.drafts_andAll (xs : List Term) : (andAll xs).drafts = draftsOf xs := by
  cases xs with
  | nil => rfl
  | cons x xs =>
    rw [andAll, draftsOf]
    induction xs generalizing x with
    | nil => rw [draftsOf, List.append_nil, List.foldl_nil]
    | cons y ys ih => rw [List.foldl_cons, ih, and, Term.drafts, draftsOf, List.append_assoc]

section Recording

variable {α β : Type} {f : α → Except Error β} {as : List α} {e : Error}

/-- Whether an error is that of the first of several that fails. -/
def FailsFirst (f : α → Except Error β) (as : List α) (e : Error) : Prop :=
  ∃ before a after, as = before ++ a :: after ∧ (∀ a' ∈ before, ∃ b, f a' = .ok b) ∧ f a = .error e

/-- The first fault among some is that of the first that fails. -/
lemma findSome?_fault?_eq_some :
    as.findSome? (fun a => fault? (f a)) = some e ↔ FailsFirst f as e := by
  simp only [List.findSome?_eq_some_iff, fault?_eq_some, fault?_eq_none]
  constructor
  case mp =>
    rintro ⟨before, a, after, has, ha, hbefore⟩
    exact ⟨before, a, after, has, hbefore, ha⟩
  case mpr =>
    rintro ⟨before, a, after, has, hbefore, ha⟩
    exact ⟨before, a, after, has, ha, hbefore⟩

/-- There is no fault among some just if none of them fails. -/
lemma findSome?_fault?_eq_none :
    as.findSome? (fun a => fault? (f a)) = none ↔ ∀ a ∈ as, ∃ b, f a = .ok b := by
  simp only [List.findSome?_eq_none_iff, fault?_eq_none]

variable {s : Step} {ss : List Step} {o : Operation} {ops : List Operation}

/-- Whether an operation is what a step records: it has the name of the step, and its arguments are
the expressions that those of the step stand for. -/
structure Step.Records (s : Step) (o : Operation) : Prop where
  method : o.method = s.method
  args : List.Forall₂ (fun x e => x.untyped = .ok e) s.args o.args

/-- Terms stand for expressions if each stands for one. -/
lemma untypedAll_eq_ok {xs : List Term} {es : List Expr} :
    untypedAll xs = .ok es ↔ List.Forall₂ (fun x e => x.untyped = .ok e) xs es := by
  induction xs generalizing es with
  | nil =>
    rw [untypedAll, List.forall₂_nil_left_iff, Except.ok.injEq]
    exact eq_comm
  | cons x xs ih =>
    rw [untypedAll]
    constructor
    case mp =>
      intro h
      obtain ⟨e, he, h⟩ := ok_of_bind h
      obtain ⟨es, hes, h⟩ := ok_of_bind h
      cases h
      exact .cons he (ih.mp hes)
    case mpr =>
      rintro (_ | ⟨he, hes⟩)
      rw [he, ih.mpr hes]
      rfl

/-- What a step that does not fail records. -/
lemma Step.operation_eq_ok : s.operation = .ok o ↔ s.Records o := by
  obtain ⟨method, args⟩ := s
  rw [Step.operation]
  constructor
  case mp =>
    intro h
    obtain ⟨es, hes, h⟩ := ok_of_bind h
    cases h
    exact ⟨rfl, untypedAll_eq_ok.mp hes⟩
  case mpr =>
    obtain ⟨method', es⟩ := o
    rintro ⟨rfl, hes⟩
    rw [untypedAll_eq_ok.mpr hes]
    rfl

/-- Steps record operations if each records one. -/
lemma recordedOperations_eq_ok :
    recordedOperations ss = .ok ops ↔ List.Forall₂ Step.Records ss ops := by
  induction ss generalizing ops with
  | nil =>
    rw [recordedOperations, List.forall₂_nil_left_iff, Except.ok.injEq]
    exact eq_comm
  | cons s ss ih =>
    rw [recordedOperations]
    constructor
    case mp =>
      intro h
      obtain ⟨o, ho, h⟩ := ok_of_bind h
      obtain ⟨ops, hops, h⟩ := ok_of_bind h
      cases h
      exact .cons (Step.operation_eq_ok.mp ho) (ih.mp hops)
    case mpr =>
      rintro (_ | ⟨ho, hops⟩)
      rw [Step.operation_eq_ok.mpr ho, ih.mpr hops]
      rfl

/-- Several terms fail with the error of the first that fails. -/
lemma fault?_untypedAll_args (xs : List Term) :
    fault? (untypedAll xs) = xs.findSome? fun x => fault? x.untyped := by
  induction xs with
  | nil => rfl
  | cons x xs ih =>
    have hsome : (x :: xs).findSome? (fun x => fault? x.untyped) =
        (fault? x.untyped).or (xs.findSome? fun x => fault? x.untyped) := by
      rw [List.findSome?_cons]
      cases fault? x.untyped <;> rfl
    rw [hsome, untypedAll]
    exact fault?_bind fun _ => fault?_bind_pure.trans ih

/-- The recording fails with the error of the first argument that cannot be built. -/
lemma fault?_recordedOperations_args (ss : List Step) :
    fault? (recordedOperations ss) =
      (ss.flatMap Step.args).findSome? fun x => fault? x.untyped := by
  induction ss with
  | nil => rfl
  | cons s ss ih =>
    have hs : fault? s.operation = s.args.findSome? fun x => fault? x.untyped := by
      obtain ⟨method, args⟩ := s
      rw [Step.operation, fault?_bind_pure, fault?_untypedAll_args]
    rw [recordedOperations, List.flatMap_cons, List.findSome?_append, ← hs]
    exact fault?_bind fun _ => fault?_bind_pure.trans ih

/-- One more step is recorded after the steps before it. -/
lemma recordedOperations_concat (ss : List Step) (s : Step) :
    recordedOperations (ss ++ [s]) = record (recordedOperations ss) s := by
  rw [record]
  induction ss with
  | nil =>
    rw [List.nil_append, recordedOperations, recordedOperations]
    cases s.operation <;> rfl
  | cons s' ss ih =>
    rw [List.cons_append, recordedOperations, recordedOperations, ih]
    cases s'.operation with
    | error e => rfl
    | ok o =>
      cases recordedOperations ss with
      | error e => rfl
      | ok ops => cases s.operation <;> rfl

/-- Recording step by step gives what all steps record. -/
theorem recordedOperations_eq_foldl (ss : List Step) :
    recordedOperations ss = ss.foldl record (.ok []) := by
  induction ss using List.reverseRecOn with
  | nil => rw [recordedOperations, List.foldl_nil]
  | append_singleton ss s ih => rw [recordedOperations_concat, List.foldl_concat, ih]

/-- An error that was recorded stays. -/
lemma foldl_record_error (e : Error) (ss : List Step) : ss.foldl record (.error e) = .error e := by
  induction ss with
  | nil => rfl
  | cons s ss ih => exact ih

end Recording

/-- A query for tickets of which a negative number is skipped or taken. -/
def ticketsBeyond (method : String) (n : Int64) : Draft :=
  ⟨.ok ticketTable, ⟨2⟩, [⟨method, [.literal (.int n)]⟩]⟩

/-- A test that uses a query for tickets, one that takes a negative number of them, and one that
skips a negative number. -/
def ticketTest : Term :=
  .binary .or (.exists (Draft.all (.ok ticketTable) ⟨1⟩))
    (.existsWhere (ticketsBeyond "Take" (-1)) (.inQuery ⟨⟨0⟩, 0⟩ (ticketsBeyond "Skip" (-2))))

end TableQuery
