import TableQuery.Proofs.Building.Result
import TableQuery.Proofs.Emission.Gives
import TableQuery.Proofs.Schema.Index
import TableQuery.Typed.Term

/-!
# What a recorded query reports

The steps of a draft are first all recorded, and what they have recorded is then built into a query.
Here the two are taken together: a step runs (`Step.run`) if its operation can be recorded and
applied to the query before it, and a query follows some steps (`Query.follow`) if they run one
after another.

The first step that does not run need not be the one that is reported.  A later step whose arguments
cannot be built takes precedence if the first one fails in the building
(`Draft.reports_first_failure`); in every other case the first failure is the one reported.
-/

namespace TableQuery

/-- The query after a step that is recorded and applied at once. -/
def Step.run (q : Query) (s : Step) : Except Error Query := do
  q.apply (← s.operation)

/-- The query after several steps, each of which is recorded and applied before the next. -/
def Query.follow (q : Query) : List Step → Except Error Query
  | [] => .ok q
  | s :: ss => do (← s.run q).follow ss

/-- Whether the arguments of a step can be built. -/
def Step.Recordable (s : Step) : Prop := ∃ o, s.operation = .ok o

section Recording

variable {q q' : Query} {s : Step} {ss before after : List Step} {e : Error}
  {ops : List Operation}

/-- Steps one after another fail at the first that does not run on the query before it. -/
lemma Query.follow_eq_error (h : q.follow ss = .error e) :
    ∃ before s after q', ss = before ++ s :: after ∧ q.follow before = .ok q' ∧
      s.run q' = .error e := by
  induction ss generalizing q with
  | nil => cases h
  | cons s ss ih =>
    rw [follow] at h
    cases hrun : s.run q with
    | error e' =>
      rw [hrun] at h
      cases h
      exact ⟨[], s, ss, q, rfl, rfl, hrun⟩
    | ok q₁ =>
      rw [hrun] at h
      obtain ⟨before, s', after, q', rfl, hbefore, he⟩ := ih h
      refine ⟨s :: before, s', after, q', rfl, ?_, he⟩
      rw [follow, hrun]
      exact hbefore

/-- Steps that run have recorded operations that build the same query. -/
lemma Query.operations_of_follow (h : q.follow ss = .ok q') :
    ∃ ops, recordedOperations ss = .ok ops ∧ q.build ops = .ok q' := by
  induction ss generalizing q with
  | nil => exact ⟨[], by rw [recordedOperations], h⟩
  | cons s ss ih =>
    rw [follow] at h
    obtain ⟨q₁, hrun, hrest⟩ := ok_of_bind h
    obtain ⟨o, ho, happly⟩ := ok_of_bind hrun
    obtain ⟨ops, hops, hbuild⟩ := ih hrest
    refine ⟨o :: ops, ?_, ?_⟩
    · rw [recordedOperations, ho, hops]
      rfl
    · rw [build, happly]
      exact hbuild

/-- Several steps can be recorded just if each of them can. -/
lemma recordedOperations_ok_iff :
    (∃ ops, recordedOperations ss = .ok ops) ↔ ∀ s ∈ ss, s.Recordable := by
  induction ss with
  | nil => exact iff_of_true ⟨[], by rw [recordedOperations]⟩ (List.forall_mem_nil _)
  | cons s ss ih =>
    rw [List.forall_mem_cons, ← ih, recordedOperations]
    constructor
    case mp =>
      rintro ⟨_, h⟩
      obtain ⟨o, ho, h⟩ := ok_of_bind h
      obtain ⟨ops, hops, -⟩ := ok_of_bind h
      exact ⟨⟨o, ho⟩, ops, hops⟩
    case mpr =>
      rintro ⟨⟨o, ho⟩, ops, hops⟩
      exact ⟨o :: ops, by rw [ho, hops]; rfl⟩

/-- After steps that can be recorded, the recording goes on with the others. -/
lemma recordedOperations_append (h : recordedOperations before = .ok ops) (rest : List Step) :
    recordedOperations (before ++ rest) = (recordedOperations rest).map (ops ++ ·) := by
  induction before generalizing ops with
  | nil =>
    rw [recordedOperations] at h
    cases h
    rw [List.nil_append]
    cases recordedOperations rest <;> rfl
  | cons s before ih =>
    rw [recordedOperations] at h
    obtain ⟨o, ho, h⟩ := ok_of_bind h
    obtain ⟨ops₁, hops, h⟩ := ok_of_bind h
    cases h
    rw [List.cons_append, recordedOperations, ho, ih hops]
    cases recordedOperations rest <;> rfl

/-- The recording reports the first step that cannot be recorded. -/
lemma recordedOperations_error (hbefore : ∀ s ∈ before, s.Recordable)
    (hs : s.operation = .error e) :
    recordedOperations (before ++ s :: after) = .error e := by
  obtain ⟨ops, hops⟩ := recordedOperations_ok_iff.mpr hbefore
  rw [recordedOperations_append hops, recordedOperations, hs]
  rfl

end Recording

namespace Draft

variable {t : Table} {src : SourceId} {ss : List Step} {e : Error}

/-- A draft does not compile if its steps cannot be recorded. -/
lemma compile_of_unrecorded (d : Dialect) (h : recordedOperations ss = .error e) :
    compile d ⟨.ok t, src, ss⟩ = .error e := by
  rw [compile, query, h]
  rfl

/-- A draft does not compile if the query cannot be built from what is recorded. -/
lemma compile_of_unbuilt (d : Dialect) {ops : List Operation}
    (hops : recordedOperations ss = .ok ops) (hbuild : (Query.all t src).build ops = .error e) :
    compile d ⟨.ok t, src, ss⟩ = .error e := by
  rw [compile, query, hops]
  show (do Query.compile d (← (Query.all t src).build ops)) = _
  rw [hbuild]
  rfl

/-- If the steps of a draft do not all run, then there is a first that does not.  Its error is that
of the compilation, if its arguments cannot be built or if those of all later steps can.  Otherwise
the compilation has the error of the first later step whose arguments cannot be built. -/
theorem reports_first_failure (d : Dialect) (h : (Query.all t src).follow ss = .error e) :
    ∃ before s after q, ss = before ++ s :: after ∧
      (Query.all t src).follow before = .ok q ∧ s.run q = .error e ∧
      ((s.Recordable → ∀ s' ∈ after, s'.Recordable) → compile d ⟨.ok t, src, ss⟩ = .error e) ∧
      ∀ between s' rest e', after = between ++ s' :: rest → s.Recordable →
        (∀ x ∈ between, x.Recordable) → s'.operation = .error e' →
          compile d ⟨.ok t, src, ss⟩ = .error e' := by
  obtain ⟨before, s, after, q, rfl, hbefore, hs⟩ := Query.follow_eq_error h
  obtain ⟨ops, hops, hbuild⟩ := Query.operations_of_follow hbefore
  have hrecordable := recordedOperations_ok_iff.mp ⟨ops, hops⟩
  refine ⟨before, s, after, q, rfl, hbefore, hs, fun hafter => ?_, ?_⟩
  · cases ho : s.operation with
    | error e₁ =>
      -- The recording stops here, as the run does.
      rw [Step.run, ho] at hs
      cases hs
      exact compile_of_unrecorded d (recordedOperations_error hrecordable ho)
    | ok o =>
      -- All steps are recorded, and the building stops here.
      obtain ⟨ops', hops'⟩ := recordedOperations_ok_iff.mpr (hafter ⟨o, ho⟩)
      have hall : recordedOperations (before ++ s :: after) = .ok (ops ++ o :: ops') := by
        rw [recordedOperations_append hops, recordedOperations, ho, hops']
        rfl
      have happly : q.apply o = .error e := by
        rw [Step.run, ho] at hs
        exact hs
      exact compile_of_unbuilt d hall
        (Query.build_eq_error.mpr ⟨ops, o, ops', q, rfl, hbuild, happly⟩)
  · -- The recording stops later, before anything is built.
    rintro between s' rest e' rfl hrec hbetween hs'
    have hfirst : ∀ x ∈ before ++ s :: between, x.Recordable :=
      List.forall_mem_append.mpr ⟨hrecordable, List.forall_mem_cons.mpr ⟨hrec, hbetween⟩⟩
    have herror : recordedOperations ((before ++ s :: between) ++ s' :: rest) = .error e' :=
      recordedOperations_error hfirst hs'
    rw [List.append_assoc, List.cons_append] at herror
    exact compile_of_unrecorded d herror

end Draft

/-- A table of tickets. -/
def ticketTable : Table :=
  .of "tickets"
    [⟨"id", "Id", .int, false, true⟩, ⟨"seat", "Seat", .text, true, false⟩] (by decide)

/-- A test with a query inside that skips a negative number of rows. -/
def skipsNegative : Step :=
  ⟨"Where", [.exists ⟨.ok ticketTable, ⟨1⟩, [⟨"Skip", [.literal (.int (-2))]⟩]⟩]⟩

/-- A step that takes a negative number of rows. -/
def takesNegative : Step := ⟨"Take", [.literal (.int (-1))]⟩

/-- The error of a negative number of rows. -/
def negativeCount (method : String) (n : Int) : Error :=
  .invalidArgument (.negativeCount method n)

/-- Steps of which the second takes a negative number of rows. -/
def ticketSteps : List Step :=
  [⟨"OrderBy", [.path ⟨⟨0⟩, 1⟩]⟩, takesNegative, ⟨"Skip", [.literal (.int 3)]⟩]

/-- All steps on tickets can be recorded, so the one that takes a negative number is reported. -/
theorem Draft.reports_first_failure_tickets :
    (Query.all ticketTable ⟨0⟩).follow ticketSteps = .error (negativeCount "Take" (-1)) ∧
      Draft.compile .sqlite ⟨.ok ticketTable, ⟨0⟩, ticketSteps⟩ =
        .error (negativeCount "Take" (-1)) := by
  have hfollow : (Query.all ticketTable ⟨0⟩).follow ticketSteps =
      .error (negativeCount "Take" (-1)) := rfl
  have hrecordable : ∀ s ∈ ticketSteps, s.Recordable :=
    recordedOperations_ok_iff.mp ⟨_, rfl⟩
  obtain ⟨before, s, after, q, hsteps, -, -, hfirst, -⟩ :=
    Draft.reports_first_failure .sqlite hfollow
  refine ⟨hfollow, hfirst fun _ s' hs' => hrecordable s' ?_⟩
  rw [hsteps]
  exact List.mem_append_right before (List.mem_cons_of_mem s hs')

/-- Taking a negative number of rows fails before a test that cannot be built, but it is the test
that is reported. -/
theorem Draft.later_failure_reported :
    (Query.all ticketTable ⟨0⟩).follow [takesNegative, skipsNegative] =
        .error (negativeCount "Take" (-1)) ∧
      Draft.compile .sqlite ⟨.ok ticketTable, ⟨0⟩, [takesNegative, skipsNegative]⟩ =
        .error (negativeCount "Skip" (-2)) ∧
      negativeCount "Take" (-1) ≠ negativeCount "Skip" (-2) := by
  refine ⟨rfl, rfl, fun h => ?_⟩
  simp [negativeCount, Error.invalidArgument] at h

end TableQuery
