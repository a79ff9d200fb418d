import Mathlib.Data.List.Forall2
import Mathlib.Data.List.Induction
import TableQuery.Proofs.Building.Effects
import TableQuery.Proofs.Schema.Index

/-!
# What is built

Applying operations to a query one after another succeeds if each of them means something by itself
and none follows a terminal, and then every part of the query is collected from the operations that
concern it (`Query.build_collects`); otherwise the error is that of the first operation that means
nothing or follows a terminal.  Hence operations that concern different parts of a query may come in
any order.

The proof goes from left to right: the query after some operations is the one that is collected from
what they mean, and one operation more adds to it what it means (`Query.after_collected`).
-/

namespace TableQuery

/-- The conjunction of some filters, joined from the left. -/
def conjunction? : List Expr → Option Expr
  | [] => none
  | e :: es => some (es.foldl (.binary .and) e)

/-- Whether nothing follows a terminal. -/
def ClosesLast (effects : List Effect) : Prop := ∀ x ∈ effects.dropLast, x.terminal? = none

/-- The query that is collected from what some operations mean. -/
def Query.collected (t : Table) (s : SourceId) (effects : List Effect) : Query where
  table := t
  source := s
  predicate := conjunction? (effects.filterMap Effect.filter?)
  orderings := effects.filterMap Effect.key?
  projection := (effects.filterMap Effect.columns?).getLast?.getD []
  skip := (effects.filterMap Effect.skip?).getLast?
  take := (effects.filterMap Effect.take?).getLast?
  distinct := effects.any Effect.isDistinct
  terminal := (effects.getLast?.bind Effect.terminal?).getD .sequence

section Steps

variable {t : Table} {s : SourceId} {effects : List Effect} {x : Effect}

/-- One filter more is joined to the others. -/
lemma conjunction?_append_singleton (es : List Expr) (e : Expr) :
    conjunction? (es ++ [e]) = some ((conjunction? es).elim e (.binary .and · e)) := by
  cases es with
  | nil => rfl
  | cons e' es => simp [conjunction?]

/-- One filter more is joined to that of a query. -/
lemma Query.withFilter_eq (q : Query) (e : Expr) :
    q.withFilter e = { q with predicate := some (q.predicate.elim e (.binary .and · e)) } := by
  unfold withFilter
  cases q.predicate <;> rfl

/-- The last operation decides whether the query has a terminal. -/
lemma Query.terminal_collected_append :
    (collected t s (effects ++ [x])).terminal = x.terminal?.getD .sequence := by
  simp [collected]

/-- Without a terminal operation the query has no terminal. -/
lemma Query.terminal_collected (h : ∀ x ∈ effects, x.terminal? = none) :
    (collected t s effects).terminal = .sequence := by
  cases effects using List.reverseRecOn with
  | nil => rfl
  | append_singleton effects x =>
    rw [terminal_collected_append, h x (List.mem_append_right effects List.mem_cons_self)]
    rfl

/-- To the query that is collected from some operations without a terminal, one more adds what it
means. -/
lemma Query.after_collected (h : ∀ x ∈ effects, x.terminal? = none) :
    (collected t s effects).after x = collected t s (effects ++ [x]) := by
  have hopen : (effects.getLast?.bind Effect.terminal?).getD .sequence = .sequence :=
    terminal_collected (t := t) (s := s) h
  cases x with
  | filter e => simp [after, withFilter_eq, collected, hopen, conjunction?_append_singleton]
  | close terminal e =>
    cases e with
    | none => simp [after, collected, List.filterMap_cons]
    | some e => simp [after, withFilter_eq, collected, conjunction?_append_singleton]
  | _ => simp [after, collected, hopen, List.filterMap_cons]

end Steps

section Runs

variable {t : Table} {s : SourceId} {effects : List Effect}

/-- The terminal of an operation that means something ends the query. -/
lemma Operation.Means.terminal_ne {o : Operation} {x : Effect} (h : o.Means t s x) :
    x.terminal? ≠ some .sequence := by
  cases h with
  | close ht | closeFilter ht =>
    rintro ⟨⟩
    revert ht
    decide
  | _ => exact nofun

/-- Effects end with the last one of them just if those before it are no terminals. -/
lemma closesLast_append_singleton {x : Effect} :
    ClosesLast (effects ++ [x]) ↔ ∀ y ∈ effects, y.terminal? = none := by
  rw [ClosesLast, List.dropLast_concat]

/-- A query that is collected from operations has no terminal if none of them is one. -/
lemma Query.terminal_collected_iff (hlast : ClosesLast effects)
    (hne : ∀ x ∈ effects, x.terminal? ≠ some .sequence) :
    (collected t s effects).terminal = .sequence ↔ ∀ x ∈ effects, x.terminal? = none := by
  refine ⟨fun h => ?_, terminal_collected⟩
  cases effects using List.reverseRecOn with
  | nil => exact List.forall_mem_nil _
  | append_singleton effects x =>
    rw [closesLast_append_singleton] at hlast
    refine List.forall_mem_append.mpr ⟨hlast, List.forall_mem_singleton.mpr ?_⟩
    rw [terminal_collected_append] at h
    cases hx : x.terminal? with
    | none => rfl
    | some terminal =>
      rw [hx] at h
      have hsome := hne x (List.mem_append_right effects List.mem_cons_self)
      rw [hx] at hsome
      exact absurd (congrArg some h) hsome

/-- Where more operations follow, there is no terminal yet. -/
lemma closesLast_append_cons {x : Effect} {rest : List Effect} :
    ClosesLast (effects ++ x :: rest) ↔
      (∀ y ∈ effects, y.terminal? = none) ∧ ClosesLast (x :: rest) := by
  rw [ClosesLast, List.dropLast_append_cons, List.forall_mem_append, ClosesLast]

/-- From the query that is collected from some operations, applying further ones gives the query
that is collected from all of them. -/
lemma Query.build_collected {ops : List Operation} {q : Query} (hlast : ClosesLast effects)
    (hne : ∀ x ∈ effects, x.terminal? ≠ some .sequence) :
    (collected t s effects).build ops = .ok q ↔
      ∃ rest, List.Forall₂ (Operation.Means t s) ops rest ∧ ClosesLast (effects ++ rest) ∧
        q = collected t s (effects ++ rest) := by
  -- On the further operations, over any effects before them, since each step moves one across.
  induction ops generalizing effects with
  | nil =>
    rw [build, Except.ok.injEq]
    constructor
    · rintro rfl
      exact ⟨[], .nil, by simpa using hlast, by simp⟩
    · rintro ⟨rest, hrest, -, rfl⟩
      cases hrest
      simp
  | cons o ops ih =>
    -- What was collected is not closed, so the next effect may be the one that closes it.
    have hnext : ∀ x, o.Means t s x → (∀ y ∈ effects, y.terminal? = none) →
        ((collected t s (effects ++ [x])).build ops = .ok q ↔
          ∃ rest, List.Forall₂ (Operation.Means t s) ops rest ∧
            ClosesLast (effects ++ x :: rest) ∧ q = collected t s (effects ++ x :: rest)) := by
      intro x hx hopen
      have hne' := List.forall_mem_append.mpr ⟨hne, List.forall_mem_singleton.mpr hx.terminal_ne⟩
      simpa only [List.append_assoc, List.singleton_append] using
        ih (closesLast_append_singleton.mpr hopen) hne'
    rw [build]
    constructor
    case mp =>
      intro h
      obtain ⟨q', hq', h⟩ := ok_of_bind h
      obtain ⟨hopen, x, hx, rfl⟩ := apply_eq_ok.mp hq'
      rw [terminal_collected_iff hlast hne] at hopen
      rw [after_collected hopen] at h
      obtain ⟨rest, hrest, hclose, rfl⟩ := (hnext x hx hopen).mp h
      exact ⟨x :: rest, .cons hx hrest, hclose, rfl⟩
    case mpr =>
      rintro ⟨rest, hrest, hclose, rfl⟩
      cases hrest with
      | @cons _ x _ rest hx hrest =>
        have hopen := (closesLast_append_cons.mp hclose).1
        have happly : (collected t s effects).apply o = .ok (collected t s (effects ++ [x])) := by
          rw [← after_collected hopen]
          exact apply_means (terminal_collected hopen) hx
        rw [happly]
        exact (hnext x hx hopen).mpr ⟨rest, hrest, hclose, rfl⟩

/-- Operations build a query over a table if each of them means something and none follows a
terminal, and the query is collected from what they mean. -/
theorem Query.build_eq_ok {ops : List Operation} {q : Query} :
    (Query.all t s).build ops = .ok q ↔ ∃ effects, List.Forall₂ (Operation.Means t s) ops effects ∧
      ClosesLast effects ∧ q = collected t s effects := by
  have hlast : ClosesLast [] := List.forall_mem_nil _
  exact Query.build_collected hlast (List.forall_mem_nil _)

/-- What operations mean is meant by one of them. -/
lemma exists_means {ops : List Operation} (h : List.Forall₂ (Operation.Means t s) ops effects) :
    ∀ x ∈ effects, ∃ o, Operation.Means t s o x := by
  induction h with
  | nil => exact List.forall_mem_nil _
  | cons hx _ ih => exact List.forall_mem_cons.mpr ⟨⟨_, hx⟩, ih⟩

/-- What is collected from operations is added by one of them. -/
lemma exists_adding {α : Type} {f : Effect → Option α} {a : α} {ops : List Operation}
    (h : List.Forall₂ (Operation.Means t s) ops effects) (ha : a ∈ effects.filterMap f) :
    ∃ o x, Operation.Means t s o x ∧ f x = some a := by
  obtain ⟨x, hx, hxa⟩ := List.mem_filterMap.mp ha
  obtain ⟨o, ho⟩ := exists_means h x hx
  exact ⟨o, x, ho, hxa⟩

/-- The columns that a query sorts by and selects are columns of its table. -/
lemma Query.columns_of_build {ops : List Operation} {q : Query}
    (h : (Query.all t s).build ops = .ok q) :
    (∀ k ∈ q.orderings, (q.table.column? k.column).isSome = true) ∧
      ∀ i ∈ q.projection, (q.table.column? i).isSome = true := by
  obtain ⟨effects, hmeans, -, rfl⟩ := build_eq_ok.mp h
  constructor
  · intro k hk
    obtain ⟨o, x, ho, hxk⟩ := exists_adding hmeans hk
    cases ho with
    | order _ hi =>
      cases hxk
      exact hi
    | _ => cases hxk
  · intro i hi
    cases hlast : (effects.filterMap Effect.columns?).getLast? with
    | none =>
      rw [collected, hlast] at hi
      cases hi
    | some is =>
      rw [collected, hlast] at hi
      obtain ⟨o, x, ho, hxis⟩ := exists_adding hmeans (List.mem_of_getLast? hlast)
      cases ho with
      | select _ his =>
        cases hxis
        exact his i hi
      | _ => cases hxis

/-- Building fails at the first operation that cannot be applied to the query before it. -/
lemma Query.build_eq_error {q : Query} {ops : List Operation} {e : Error} :
    q.build ops = .error e ↔ ∃ before o after q', ops = before ++ o :: after ∧
      q.build before = .ok q' ∧ q'.apply o = .error e := by
  induction ops generalizing q with
  | nil => simp [build]
  | cons o ops ih =>
    rw [build]
    constructor
    case mp =>
      intro h
      cases happly : q.apply o with
      | error e' =>
        rw [happly] at h
        cases h
        exact ⟨[], o, ops, q, rfl, rfl, happly⟩
      | ok q₁ =>
        rw [happly] at h
        obtain ⟨before, o', after, q', rfl, hbefore, he⟩ := ih.mp h
        refine ⟨o :: before, o', after, q', rfl, ?_, he⟩
        rw [build, happly]
        exact hbefore
    case mpr =>
      rintro ⟨before, o', after, q', hops, hbefore, he⟩
      cases before with
      | nil =>
        cases hops
        cases hbefore
        rw [he]
        rfl
      | cons o₁ before =>
        cases hops
        rw [build] at hbefore
        obtain ⟨q₁, hq₁, hbefore⟩ := ok_of_bind hbefore
        rw [hq₁]
        exact ih.mpr ⟨before, o', after, q', rfl, hbefore, he⟩

end Runs

section Orders

/-- The parts of a query that operations concern. -/
inductive Part where
  | filters
  | keys
  | skip
  | take
  | columns
  | distinct
  | terminal
  deriving DecidableEq

/-- The part that a method concerns. -/
def Method.part : Method → Part
  | filter => .filters
  | order _ => .keys
  | skip => .skip
  | take => .take
  | select => .columns
  | distinct => .distinct
  | close _ => .terminal

/-- The part that an operation concerns, by its name. -/
def Operation.part? (o : Operation) : Option Part := (Method.ofName? o.method).map Method.part

/-- The part that an effect concerns. -/
def Effect.part : Effect → Part
  | filter _ => .filters
  | order _ => .keys
  | skip _ => .skip
  | take _ => .take
  | select _ => .columns
  | distinct => .distinct
  | close .. => .terminal

/-- An effect adds nothing to the parts that it does not concern. -/
lemma Effect.none_of_part (x : Effect) :
    (x.part ≠ .keys → x.key? = none) ∧ (x.part ≠ .columns → x.columns? = none) ∧
      (x.part ≠ .skip → x.skip? = none) ∧ (x.part ≠ .take → x.take? = none) ∧
        (x.part ≠ .terminal → x.terminal? = none) := by
  cases x <;> simp [part]

/-- Whether operations are others in an order that keeps those together in order that concern one
part of the query. -/
def Rearranged (ops ops' : List Operation) : Prop :=
  ∀ p, ops'.filter (fun o => o.part? = p) = ops.filter (fun o => o.part? = p)

variable {t : Table} {s : SourceId} {ops ops' : List Operation} {g : Operation → Effect}

/-- An operation concerns the part that its effect does. -/
lemma Operation.Means.part? {o : Operation} {x : Effect} (h : o.Means t s x) :
    o.part? = some x.part := by
  cases h with
  | order hname _ => rw [Operation.part?, Method.ofName?_sort hname]; rfl
  | close ht => rw [Operation.part?, Method.ofName?_closing ht]; rfl
  | closeFilter ht _ => rw [Operation.part?, Method.ofName?_closing ht]; rfl
  | _ => rfl

/-- Rearranged operations are the same ones. -/
lemma Rearranged.mem (h : Rearranged ops ops') {o : Operation} : o ∈ ops' ↔ o ∈ ops := by
  have hpart := h o.part?
  have hmem : ∀ us : List Operation, o ∈ us ↔ o ∈ us.filter fun o' => o'.part? = o.part? := by
    intro us
    simp
  rw [hmem ops', hpart, ← hmem ops]

/-- What operations add of one kind is added by those that concern one part. -/
lemma filterMap_part {α : Type} {f : Effect → Option α} (p : Part)
    (h : ∀ o ∈ ops, o.part? ≠ some p → f (g o) = none) :
    (ops.map g).filterMap f = ((ops.filter fun o => o.part? = some p).map g).filterMap f := by
  induction ops with
  | nil => rfl
  | cons o ops ih =>
    obtain ⟨ho, hops⟩ := List.forall_mem_cons.mp h
    by_cases hp : o.part? = some p
    · simp [hp, ih hops, List.filterMap_cons]
    · simp [hp, ih hops, ho hp]

/-- Where nothing follows a terminal, filters are added by the operations for filters and then by
those that end the query. -/
lemma filterMap_filter? (hpart : ∀ o ∈ ops, o.part? = some (g o).part)
    (hlast : ∀ o ∈ ops.dropLast, o.part? ≠ some .terminal) :
    (ops.map g).filterMap Effect.filter? =
      ((ops.filter fun o => o.part? = some .filters).map g).filterMap Effect.filter? ++
        ((ops.filter fun o => o.part? = some .terminal).map g).filterMap Effect.filter? := by
  cases ops using List.reverseRecOn with
  | nil => rfl
  | append_singleton init o =>
    rw [List.dropLast_concat] at hlast
    have hinit : ∀ o ∈ init, o.part? ≠ some .filters → Effect.filter? (g o) = none := by
      intro o ho hne
      have hsome := hpart o (List.mem_append_left [_] ho)
      have hterminal := hlast o ho
      rw [hsome] at hne hterminal
      cases hg : g o <;> rw [hg] at hne hterminal
      case filter => exact absurd rfl hne
      case close => exact absurd rfl hterminal
      all_goals rfl
    have hnone : (init.filter fun o => o.part? = some .terminal) = [] := by
      rw [List.filter_eq_nil_iff]
      intro o ho
      simpa using hlast o ho
    have ho := hpart o (List.mem_append_right init List.mem_cons_self)
    rw [List.map_append, List.filterMap_append, filterMap_part .filters hinit, List.filter_append,
      List.filter_append, hnone, List.map_append, List.filterMap_append, List.append_assoc]
    congr 1
    cases hg : g o <;> rw [hg] at ho <;> simp [ho, hg, Effect.part, List.filterMap_cons]

/-- Where nothing follows a terminal, the query has the terminal of the operation that ends it. -/
lemma getLast?_terminal? {effects : List Effect} (h : ClosesLast effects) :
    effects.getLast?.bind Effect.terminal? = (effects.filterMap Effect.terminal?).getLast? := by
  cases effects using List.reverseRecOn with
  | nil => rfl
  | append_singleton effects x =>
    have hnone : effects.filterMap Effect.terminal? = [] :=
      List.filterMap_eq_nil_iff.mpr (closesLast_append_singleton.mp h)
    rw [List.filterMap_append, hnone, List.nil_append, List.getLast?_concat]
    cases hx : x.terminal? <;> simp

/-- Nothing follows a terminal if no operation that ends a query stands before the last one. -/
lemma closesLast_map (hpart : ∀ o ∈ ops, o.part? = some (g o).part)
    (hlast : ∀ o ∈ ops.dropLast, o.part? ≠ some .terminal) : ClosesLast (ops.map g) := by
  rw [ClosesLast, ← List.map_dropLast, List.forall_mem_map]
  intro o ho
  have hne := hlast o ho
  rw [hpart o (List.dropLast_subset ops ho)] at hne
  cases hg : g o with
  | close terminal e =>
    rw [hg] at hne
    exact absurd rfl hne
  | _ => rfl

/-- What is collected from operations depends on the order among those only that concern one part
of the query. -/
lemma Query.collected_rearranged (h : Rearranged ops ops')
    (hpart : ∀ o ∈ ops, o.part? = some (g o).part)
    (hlast : ∀ o ∈ ops.dropLast, o.part? ≠ some .terminal)
    (hlast' : ∀ o ∈ ops'.dropLast, o.part? ≠ some .terminal) :
    collected t s (ops'.map g) = collected t s (ops.map g) := by
  have hpart' : ∀ o ∈ ops', o.part? = some (g o).part := fun o ho => hpart o (h.mem.mp ho)
  -- A part of the query is made of the effects on that part alone, and these keep their order.
  have hkind : ∀ {α : Type} (f : Effect → Option α) (p : Part), (∀ x, x.part ≠ p → f x = none) →
      (ops'.map g).filterMap f = (ops.map g).filterMap f := by
    intro α f p hf
    have hnone : ∀ o, o.part? = some (g o).part → o.part? ≠ some p → f (g o) = none := by
      intro o ho hne
      rw [ho] at hne
      exact hf (g o) fun he => hne (congrArg some he)
    rw [filterMap_part p fun o ho => hnone o (hpart' o ho),
      filterMap_part p fun o ho => hnone o (hpart o ho), h (some p)]
  -- Two parts are filters: a terminal may bring one.  It is the last, so it stays behind the
  -- others.
  have hfilters : (ops'.map g).filterMap Effect.filter? = (ops.map g).filterMap Effect.filter? := by
    rw [filterMap_filter? hpart' hlast', filterMap_filter? hpart hlast, h (some .filters),
      h (some .terminal)]
  have hkeys : (ops'.map g).filterMap Effect.key? = (ops.map g).filterMap Effect.key? :=
    hkind _ .keys fun x => x.none_of_part.1
  have hcolumns : (ops'.map g).filterMap Effect.columns? = (ops.map g).filterMap Effect.columns? :=
    hkind _ .columns fun x => x.none_of_part.2.1
  have hskip : (ops'.map g).filterMap Effect.skip? = (ops.map g).filterMap Effect.skip? :=
    hkind _ .skip fun x => x.none_of_part.2.2.1
  have htake : (ops'.map g).filterMap Effect.take? = (ops.map g).filterMap Effect.take? :=
    hkind _ .take fun x => x.none_of_part.2.2.2.1
  have hterminal : (ops'.map g).filterMap Effect.terminal? =
      (ops.map g).filterMap Effect.terminal? :=
    hkind _ .terminal fun x => x.none_of_part.2.2.2.2
  have hdistinct : (ops'.map g).any Effect.isDistinct = (ops.map g).any Effect.isDistinct := by
    rw [Bool.eq_iff_iff]
    simp [h.mem]
  rw [collected, collected, hfilters, hkeys, hcolumns, hskip, htake, hdistinct,
    getLast?_terminal? (closesLast_map hpart' hlast'), hterminal,
    ← getLast?_terminal? (closesLast_map hpart hlast)]

/-- Operations that mean something each have an effect. -/
lemma exists_effects (h : ∀ o ∈ ops, ∃ x, o.Means t s x) :
    ∃ g : Operation → Effect, ∀ o ∈ ops, o.Means t s (g o) := by
  have hall : ∀ o, ∃ x, o ∈ ops → o.Means t s x := by
    intro o
    by_cases ho : o ∈ ops
    · obtain ⟨x, hx⟩ := h o ho
      exact ⟨x, fun _ => hx⟩
    · exact ⟨.distinct, fun hmem => absurd hmem ho⟩
  choose g hg using hall
  exact ⟨g, fun o ho => hg o ho⟩

/-- Operations that have effects each mean something, and if none follows a terminal among the
effects, then no operation that ends a query stands before the last one. -/
lemma means_of_forall₂ {effects : List Effect}
    (h : List.Forall₂ (Operation.Means t s) ops effects) (hlast : ClosesLast effects) :
    (∀ o ∈ ops, ∃ x, o.Means t s x) ∧ ∀ o ∈ ops.dropLast, o.part? ≠ some .terminal := by
  induction h with
  | nil => exact ⟨List.forall_mem_nil _, List.forall_mem_nil _⟩
  | @cons o x ops effects hx hrest ih =>
    cases hrest with
    | nil => exact ⟨List.forall_mem_singleton.mpr ⟨x, hx⟩, List.forall_mem_nil _⟩
    | @cons o' x' ops effects hx' hrest =>
      rw [ClosesLast, List.dropLast_cons_cons, List.forall_mem_cons] at hlast
      obtain ⟨hmeans, hparts⟩ := ih hlast.2
      refine ⟨List.forall_mem_cons.mpr ⟨⟨x, hx⟩, hmeans⟩, ?_⟩
      rw [List.dropLast_cons_cons, List.forall_mem_cons]
      refine ⟨fun hpart => ?_, hparts⟩
      rw [hx.part?] at hpart
      cases x with
      | close terminal e => cases hlast.1
      | _ => cases hpart

/-- Operations that build a query build the same one in any order that keeps those together in
order that concern one part of the query, and a terminal at the end. -/
lemma Query.build_rearranged {q : Query} (hq : (Query.all t s).build ops = .ok q)
    (h : Rearranged ops ops') (hlast' : ∀ o ∈ ops'.dropLast, o.part? ≠ some .terminal) :
    (Query.all t s).build ops' = .ok q := by
  obtain ⟨effects, hmeans, hclose, -⟩ := build_eq_ok.mp hq
  obtain ⟨hall, hlast⟩ := means_of_forall₂ hmeans hclose
  obtain ⟨g, hg⟩ := exists_effects hall
  have hpart : ∀ o ∈ ops, o.part? = some (g o).part := fun o ho => (hg o ho).part?
  have hbuild : ∀ us : List Operation, (∀ o ∈ us, o ∈ ops) →
      (∀ o ∈ us.dropLast, o.part? ≠ some .terminal) →
        (Query.all t s).build us = .ok (collected t s (us.map g)) := by
    intro us hus hlast
    refine build_eq_ok.mpr ⟨us.map g, ?_, ?_, rfl⟩
    · rw [List.forall₂_map_right_iff, List.forall₂_same]
      exact fun o ho => hg o (hus o ho)
    · exact closesLast_map (fun o ho => hpart o (hus o ho)) hlast
  have hops := hbuild ops (fun _ ho => ho) hlast
  rw [hq, ← collected_rearranged h hpart hlast hlast'] at hops
  rw [hops]
  exact hbuild ops' (fun _ ho => h.mem.mp ho) hlast'

end Orders

section Building

variable {t : Table} {s : SourceId}

/-- The error of an operation that cannot be applied after others, by what those mean. -/
inductive Operation.Fails (t : Table) (s : SourceId) (effects : List Effect) (o : Operation) :
    Error → Prop where
  /-- The operation follows a terminal. -/
  | closed {terminal} : effects.getLast?.bind Effect.terminal? = some terminal →
    o.Fails t s effects (.invalidArgument (.afterTerminal o.method terminal))
  /-- The operation means nothing, and fails on any query over the table. -/
  | meaningless {e} : (∀ x ∈ effects, x.terminal? = none) → (¬∃ x, o.Means t s x) →
    (Query.all t s).apply o = .error e → o.Fails t s effects e

/-- Applying an operation to the query that is collected from others fails with the error of the
operation. -/
lemma Query.apply_collected_eq_error {effects : List Effect} {o : Operation} {e : Error}
    (hlast : ClosesLast effects) (hne : ∀ x ∈ effects, x.terminal? ≠ some .sequence) :
    (collected t s effects).apply o = .error e ↔ o.Fails t s effects e := by
  -- Only the last effect can be a terminal, and with it every operation is one too many.
  cases hterminal : effects.getLast?.bind Effect.terminal? with
  | some terminal =>
    obtain ⟨x, hx, hxt⟩ := Option.bind_eq_some_iff.mp hterminal
    have hx : x ∈ effects := List.mem_of_getLast? hx
    have hclosed : (collected t s effects).terminal = terminal := by
      rw [collected, hterminal, Option.getD_some]
    have hseq : (collected t s effects).terminal ≠ .sequence := by
      rw [hclosed]
      rintro rfl
      exact hne x hx hxt
    rw [apply_closed hseq, hclosed, Except.error.injEq]
    constructor
    · rintro rfl
      exact .closed hterminal
    · intro h
      cases h with
      | closed hterminal' =>
        cases hterminal.symm.trans hterminal'
        rfl
      | meaningless hopen =>
        rw [hopen x hx] at hxt
        cases hxt
  | none =>
    have hseq : (collected t s effects).terminal = .sequence := by
      rw [collected, hterminal, Option.getD_none]
    have hopen := (terminal_collected_iff hlast hne).mp hseq
    rw [apply_error hseq]
    constructor
    · intro h
      refine .meaningless hopen ?_ h
      rintro ⟨x, hx⟩
      have hok : (Query.all t s).apply o = .ok ((Query.all t s).after x) := apply_means rfl hx
      exact nomatch hok.symm.trans h
    · intro h
      cases h with
      | closed hterminal' => exact nomatch hterminal.symm.trans hterminal'
      | meaningless _ _ h => exact h

/-- Operations that have effects are no terminals that stand for the whole sequence. -/
lemma terminal_ne_of_forall₂ {ops : List Operation} {effects : List Effect}
    (h : List.Forall₂ (Operation.Means t s) ops effects) :
    ∀ x ∈ effects, x.terminal? ≠ some .sequence := by
  intro x hx
  obtain ⟨o, ho⟩ := exists_means h x hx
  exact ho.terminal_ne

/-- Some operations on the rows of a table build a query just if each of them means something by
itself and none follows a terminal, and then the query is collected from what they mean.  Otherwise
the error is that of the first operation that means nothing or follows a terminal.  Operations that
build a query build the same one if they are rearranged such that those that concern one part of
the query stay in order and a terminal stays last. -/
theorem Query.build_collects (t : Table) (s : SourceId) (ops : List Operation) :
    (∀ q, (Query.all t s).build ops = .ok q ↔
      ∃ effects, List.Forall₂ (Operation.Means t s) ops effects ∧ ClosesLast effects ∧
        q = collected t s effects) ∧
    (∀ e, (Query.all t s).build ops = .error e ↔
      ∃ before o after effects, ops = before ++ o :: after ∧
        List.Forall₂ (Operation.Means t s) before effects ∧ ClosesLast effects ∧
          o.Fails t s effects e) ∧
    ∀ q ops', (Query.all t s).build ops = .ok q → Rearranged ops ops' →
      (∀ o ∈ ops'.dropLast, o.part? ≠ some .terminal) → (Query.all t s).build ops' = .ok q := by
  refine ⟨fun q => build_eq_ok, fun e => ?_, fun q ops' => build_rearranged⟩
  rw [build_eq_error]
  constructor
  case mp =>
    rintro ⟨before, o, after, q', hops, hbefore, he⟩
    obtain ⟨effects, hmeans, hclose, rfl⟩ := build_eq_ok.mp hbefore
    rw [apply_collected_eq_error hclose (terminal_ne_of_forall₂ hmeans)] at he
    exact ⟨before, o, after, effects, hops, hmeans, hclose, he⟩
  case mpr =>
    rintro ⟨before, o, after, effects, hops, hmeans, hclose, he⟩
    rw [← apply_collected_eq_error hclose (terminal_ne_of_forall₂ hmeans)] at he
    exact ⟨before, o, after, _, hops, build_eq_ok.mpr ⟨effects, hmeans, hclose, rfl⟩, he⟩

end Building

/-- A table of pears. -/
def pearTable : Table :=
  .of "pears"
    [⟨"id", "Id", .int, false, true⟩, ⟨"sort", "Sort", .text, true, false⟩,
      ⟨"ripe", "Ripe", .bool, false, false⟩] (by decide)

/-- Operations for the number of ripe pears in the part of a list by sorts. -/
def pearOperations : List Operation :=
  [⟨"Where", [.column ⟨⟨0⟩, 2⟩]⟩, ⟨"OrderBy", [.column ⟨⟨0⟩, 1⟩]⟩, ⟨"Skip", [.value (.int 4)]⟩,
    ⟨"ThenByDescending", [.column ⟨⟨0⟩, 0⟩]⟩, ⟨"Skip", [.value (.int 2)]⟩, ⟨"Distinct", []⟩,
    ⟨"Count", [.binary .lessThan (.column ⟨⟨0⟩, 0⟩) (.value (.int 9))]⟩]

/-- The same operations in another order. -/
def pearRearranged : List Operation :=
  [⟨"Distinct", []⟩, ⟨"Skip", [.value (.int 4)]⟩, ⟨"OrderBy", [.column ⟨⟨0⟩, 1⟩]⟩,
    ⟨"ThenByDescending", [.column ⟨⟨0⟩, 0⟩]⟩, ⟨"Where", [.column ⟨⟨0⟩, 2⟩]⟩,
    ⟨"Skip", [.value (.int 2)]⟩,
    ⟨"Count", [.binary .lessThan (.column ⟨⟨0⟩, 0⟩) (.value (.int 9))]⟩]

/-- The query that the operations on pears build. -/
def pearQuery : Query :=
  { Query.all pearTable ⟨0⟩ with
    predicate := some (.binary .and (.column ⟨⟨0⟩, 2⟩)
      (.binary .lessThan (.column ⟨⟨0⟩, 0⟩) (.value (.int 9))))
    orderings := [⟨1, true⟩, ⟨0, false⟩]
    skip := some 2
    distinct := true
    terminal := .count }

/-- The operations on pears build the same query in either order. -/
theorem Query.build_collects_pears :
    (Query.all pearTable ⟨0⟩).build pearOperations = .ok pearQuery ∧
      Rearranged pearOperations pearRearranged ∧
      (∀ o ∈ pearRearranged.dropLast, o.part? ≠ some .terminal) ∧
      (Query.all pearTable ⟨0⟩).build pearRearranged = .ok pearQuery := by
  have hbuild : (Query.all pearTable ⟨0⟩).build pearOperations = .ok pearQuery := rfl
  have horder : Rearranged pearOperations pearRearranged := by
    rintro (_ | p)
    · rfl
    · cases p <;> rfl
  have hlast : ∀ o ∈ pearRearranged.dropLast, o.part? ≠ some .terminal := by
    simp only [pearRearranged, List.dropLast_cons_cons, List.dropLast_singleton,
      List.forall_mem_cons]
    exact ⟨by decide, by decide, by decide, by decide, by decide, by decide, List.forall_mem_nil _⟩
  exact ⟨hbuild, horder, hlast,
    (Query.build_collects pearTable ⟨0⟩ pearOperations).2.2 pearQuery pearRearranged hbuild horder
      hlast⟩

end TableQuery
