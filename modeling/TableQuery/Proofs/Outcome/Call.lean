import Mathlib.Data.List.InsertIdx
import Mathlib.Tactic.Tauto
import TableQuery.Proofs.Emission.Shapes
import TableQuery.Proofs.Outcome.Steps

/-!
# How calls end

The dialects write most functions in ways of their own, but all of them ask the same of a call
(`Call.Asks`): it has as many arguments as its function takes, constants that are read have values
of the right kind, and the arguments that are written have forms.  A call decides just that
(`Call.condition_decides`, `Call.scalar_decides`), whichever of the arguments comes first and
however often it is written.
-/

namespace TableQuery.Sql.Call

open Emit (Decides)

variable {α : Type} {E : Error → Prop} {es : List Expr} {d : Dialect} {func : Func} {P Q : Prop}
  {x y : Emit Scalar}

section Dialects

/-- The test that a text contains another. -/
lemma contains_decides (hx : x.Decides E P) (hy : y.Decides E Q) :
    (contains d x y).Decides E (P ∧ Q) := by
  unfold contains
  split
  · exact (hy.map₂ hx).congr and_comm
  · exact hx.map₂ hy

/-- The place of a text in another. -/
lemma indexOf_decides (hx : x.Decides E P) (hy : y.Decides E Q) :
    (indexOf d x y).Decides E (P ∧ Q) := by
  unfold indexOf
  split
  · exact (hy.map₂ hx).congr and_comm
  · exact hx.map₂ hy

/-- A number rounded up or down. -/
lemma roundToward_decides {up : Bool} (hx : x.Decides E P) : (roundToward d up x).Decides E P := by
  unfold roundToward
  cases d with
  | sqlite =>
    have hwhole : Decides E (do return Scalar.cast (← x) .integer) P := hx.map
    refine .congr (P := P ∧ P ∧ P ∧ P) ?_ (by tauto)
    exact hx.bind fun _ => hwhole.bind fun _ => hwhole.map₂ hwhole
  | _ => exact hx.map

/-- The larger or the smaller of two numbers. -/
lemma extremum_decides {larger : Bool} (hx : x.Decides E P) (hy : y.Decides E Q) :
    (extremum d larger x y).Decides E (P ∧ Q) := by
  unfold extremum
  split
  · refine .congr (P := P ∧ Q ∧ P ∧ Q) ?_ (by tauto)
    exact hx.bind fun _ => hy.bind fun _ => hx.map₂ hy
  · exact hx.map₂ hy

/-- A part of a date. -/
lemma datePart_decides {f : DateField} (hx : x.Decides E P) : (datePart d f x).Decides E P := by
  unfold datePart
  cases d with
  | _ => exact hx.map

/-- A date some time later. -/
lemma dateAdd_decides {f : DateField} (hx : x.Decides E P) (hy : y.Decides E Q) :
    (dateAdd d f x y).Decides E (P ∧ Q) := by
  unfold dateAdd
  cases d with
  | sqlServer => exact (hy.map₂ hx).congr and_comm
  | _ => exact hx.map₂ hy

/-- A date without the time of day. -/
lemma dayOf_decides (hx : x.Decides E P) : (dayOf d x).Decides E P := by
  unfold dayOf
  cases d with
  | _ => exact hx.map

/-- The day of the week of a date. -/
lemma dayOfWeek_decides (hx : x.Decides E P) : (dayOfWeek d x).Decides E P := by
  unfold dayOfWeek
  cases d with
  | _ => exact hx.map

/-- No dialect converts to binary data or to an enumeration, and all convert to anything else. -/
lemma castTo_decides {ty : ColumnType} {e : Expr} (hE : Includes E es) (mem : e ∈ es)
    (target : e.target? = some ty) (hx : x.Decides E P) :
    (castTo d ty x).Decides E (P ∧ ty ≠ .blob ∧ ty ≠ .enum) := by
  unfold castTo
  cases hname : TypeName.of? d ty with
  | some name =>
    refine hx.map.congr (iff_self_and.mpr fun _ => ?_)
    constructor <;> rintro rfl <;> cases d <;> cases hname
  | none =>
    refine .congr (P := False) (.fail (hE _ (.conversion mem target hname))) ?_
    cases d <;> cases ty <;> simp_all [TypeName.of?]

end Dialects

section Constants

variable {e : Expr} {text pattern : Argument}

/-- A pattern that is constant is a text. -/
def ReadsText (e : Expr) : Prop := e.isConst = true → ∃ s, constant e = .ok (.text s)

/-- A place that is constant can be counted from one. -/
def ReadsPlace (e : Expr) : Prop :=
  e.isConst = true → ∃ n m, constant e = .ok (.int n) ∧ Number.int64? (n.toInt + 1) = some m

/-- What is decided once the text of a pattern is asked for, if it is constant. -/
lemma constantText?_bind_decides {f : Option String → Emit α} {R : String → Prop}
    (hE : Includes E es) (mem : e ∈ es) (hsome : ∀ s, (f (some s)).Decides E (R s))
    (hnone : (f none).Decides E Q) :
    (constantText? func e >>= f).Decides E
      ((e.isConst = true → ∃ s, constant e = .ok (.text s) ∧ R s) ∧ (e.isConst = false → Q)) := by
  cases const : e.isConst with
  | false =>
    have hcomputed : (constantText? func e).result = .ok none := by
      rw [constantText?, const]
      rfl
    exact (Decides.ok_bind hcomputed hnone).congr (by simp)
  | true =>
    rw [constantText?, if_pos const]
    cases hvalue : constant e with
    | error err =>
      have herr : E err := constant_error hE mem const hvalue
      exact (Decides.error_bind rfl herr).congr (by simp)
    | ok v =>
      cases v with
      | text s => exact (Decides.ok_bind rfl (hsome s)).congr (by simp)
      | null =>
        have herr := constant_misplaced hE mem const hvalue (.nullPattern func)
        exact (Decides.error_bind rfl herr).congr (by simp)
      | _ =>
        have herr := constant_misplaced hE mem const hvalue (.patternKind func nofun nofun)
        exact (Decides.error_bind rfl herr).congr (by simp)

/-- A pattern that is constant is not written but for its text. -/
lemma startsWith_decides (hE : Includes E es) (mem : pattern.expr ∈ es)
    (hx : text.scalar.Decides E P) (hp : pattern.scalar.Decides E Q) :
    (startsWith func text pattern).Decides E
      (ReadsText pattern.expr ∧ P ∧ (pattern.expr.isConst = false → Q)) := by
  unfold startsWith ReadsText
  refine .congr (constantText?_bind_decides (R := fun _ => P ∧ True) (Q := P ∧ Q ∧ Q) hE mem
    (fun s => hx.map₂ (literal_decides _)) (hx.bind fun _ => hp.map₂ hp)) ?_
  cases pattern.expr.isConst <;> simp

/-- A test for the empty text at the end asks for nothing else.  Only SQLite writes the length of a
pattern twice. -/
lemma endsWith_decides (hE : Includes E es) (mem : pattern.expr ∈ es)
    (hx : text.scalar.Decides E P) (hp : pattern.scalar.Decides E Q) :
    (endsWith d func text pattern).Decides E
      (ReadsText pattern.expr ∧ (isEmptySuffix .endsWith [text.expr, pattern.expr] = false →
        P ∧ (pattern.expr.isConst = false → Q))) := by
  unfold endsWith ReadsText
  refine .congr (constantText?_bind_decides (R := fun s => s.isEmpty = false → P) (Q := P ∧ Q) hE
    mem (fun s => ?_) ?_) ?_
  · dsimp only
    cases s.isEmpty with
    | true => exact (Decides.pure _).congr (by simp)
    | false => exact (hx.map₂ (literal_decides _)).congr (by simp)
  · cases d with
    | sqlite =>
      refine .congr (P := P ∧ Q ∧ Q ∧ Q) ?_ (by tauto)
      exact hx.bind fun _ => hp.bind fun _ => hp.map₂ hp
    | _ =>
      refine .congr (P := P ∧ Q ∧ Q) ?_ (by tauto)
      exact hx.bind fun _ => hp.map₂ hp
  · cases const : pattern.expr.isConst with
    | false => simp [isEmptySuffix, const]
    | true =>
      cases hvalue : constant pattern.expr with
      | error err => simp
      | ok v => cases v <;> simp [isEmptySuffix, const, hvalue]

/-- The test that a text begins or ends with another, ignoring case. -/
lemma like_decides {atStart : Bool} (hE : Includes E es) (mem : pattern.expr ∈ es)
    (hx : text.scalar.Decides E P) (hp : pattern.scalar.Decides E Q) :
    (like d func atStart text pattern).Decides E
      (ReadsText pattern.expr ∧ P ∧ (pattern.expr.isConst = false → Q)) := by
  unfold like ReadsText
  refine .congr (constantText?_bind_decides (R := fun _ => P ∧ True) (Q := P ∧ Q) hE mem
    (fun s => hx.map₂ (literal_decides _)) (hx.map₂ hp)) ?_
  cases pattern.expr.isConst <;> simp

/-- A place that is constant is not written but for the number after its value. -/
lemma placeFromOne_decides (hE : Includes E es) (mem : pattern.expr ∈ es)
    (hp : pattern.scalar.Decides E Q) :
    (placeFromOne pattern).Decides E
      (ReadsPlace pattern.expr ∧ (pattern.expr.isConst = false → Q)) := by
  unfold placeFromOne ReadsPlace
  cases const : pattern.expr.isConst with
  | false => exact hp.map.congr (by simp)
  | true =>
    cases hvalue : constant pattern.expr with
    | error err =>
      have herr : E err := constant_error hE mem const hvalue
      exact (Decides.error_bind rfl herr).congr (by simp)
    | ok v =>
      refine .ok_bind rfl ?_
      cases v with
      | int n =>
        dsimp only
        cases hm : Number.int64? (n.toInt + 1) with
        | some m => exact (literal_decides _).congr (by simp [hm])
        | none =>
          have herr := constant_misplaced hE mem const hvalue (.substringRange hm)
          exact (Decides.fail herr).congr (by simp [hm])
      | _ =>
        have herr := constant_misplaced hE mem const hvalue (.substringKind nofun)
        exact (Decides.fail herr).congr (by simp)

/-- Only SQL Server writes the text again, for its length. -/
lemma substring_decides {length : Option Argument} {R : Argument → Prop} (hE : Includes E es)
    (mem : pattern.expr ∈ es) (hx : text.scalar.Decides E P) (hp : pattern.scalar.Decides E Q)
    (hn : ∀ n ∈ length, n.scalar.Decides E (R n)) :
    (substring d text pattern length).Decides E
      (ReadsPlace pattern.expr ∧ P ∧ (pattern.expr.isConst = false → Q) ∧ ∀ n ∈ length, R n) := by
  have hplace := placeFromOne_decides hE mem hp
  unfold substring
  cases length with
  | some n =>
    refine .congr (hx.bind fun _ => hplace.map₂ (hn n rfl)) ?_
    simp only [Option.mem_some_iff, forall_eq']
    tauto
  | none =>
    dsimp only
    split
    · refine .congr (hx.bind fun _ => hplace.map₂ hx) ?_
      simp only [Option.not_mem_none, false_implies, implies_true, and_true]
      tauto
    · refine .congr (hx.map₂ hplace) ?_
      simp only [Option.not_mem_none, false_implies, implies_true, and_true]
      tauto

end Constants

section Arguments

variable {args : List Argument} {R : Argument → Prop}

/-- The arguments of a call that are written: a constant that is read is not, and a test for the
empty text at the end leaves out both. -/
def written (func : Func) (args : List Argument) : List Argument :=
  if isEmptySuffix func (args.map Argument.expr) then []
  else if func.readsSecond && (args.map Argument.expr)[1]?.any Expr.isConst then args.eraseIdx 1
  else args

/-- What a function asks of the expressions that it is called with, written or not. -/
def Reads : Func → List Expr → Prop
  | .startsWith, [_, e] | .startsWithIgnoreCase, [_, e] => ReadsText e
  | .endsWith, [_, e] | .endsWithIgnoreCase, [_, e] => ReadsText e
  | .substring, _ :: e :: _ => ReadsPlace e
  | .convertTo ty, _ => ty ≠ .blob ∧ ty ≠ .enum
  | _, _ => True

/-- What a call asks, where each of its arguments has a form just if a fact holds. -/
def Asks (func : Func) (args : List Argument) (R : Argument → Prop) : Prop :=
  func.admits args.length = true ∧ Reads func (args.map Argument.expr) ∧
    ∀ a ∈ written func args, R a

/-- What holds of each of two arguments. -/
lemma forall_mem_pair {a b : Argument} : (∀ c ∈ [a, b], R c) ↔ R a ∧ R b := by simp

/-- Of the arguments that are not constant, all are written but for the test for the empty text. -/
lemma mem_written {a : Argument} (hempty : isEmptySuffix func (args.map Argument.expr) = false)
    (ha : a ∈ args) (hconst : a.expr.isConst = false) : a ∈ written func args := by
  rw [written, hempty, if_neg Bool.false_ne_true]
  split
  case isFalse => exact ha
  case isTrue hread =>
    match args with
    | [] => cases ha
    | [x] => simp at hread
    | x :: y :: rest =>
      have hy : a ≠ y := by
        rintro rfl
        simp [hconst] at hread
      simpa [hy] using ha

/-- A function that does not read its second argument writes all of them. -/
lemma written_eq_self (hsecond : func.readsSecond = false) : written func args = args := by
  have hempty : isEmptySuffix func (args.map Argument.expr) = false := by
    rw [Bool.eq_false_iff]
    intro h
    cases eq_endsWith_of_isEmptySuffix h
    cases hsecond
  rw [written, hempty, hsecond]
  rfl

/-- Most functions ask only for the right number of arguments and for all of their forms. -/
lemma asks_all (hadmits : func.admits args.length = true) (hsecond : func.readsSecond = false)
    (hconvert : ∀ ty, func ≠ .convertTo ty) : Asks func args R ↔ ∀ a ∈ args, R a := by
  have hreads : Reads func (args.map Argument.expr) := by
    unfold Reads
    split
    case h_6 ty => exact absurd rfl (hconvert ty)
    case h_7 => trivial
    all_goals cases hsecond
  rw [Asks, written_eq_self hsecond]
  simp only [hadmits, hreads, true_and]

/-- A function that reads its second argument asks for the form of it only if it is not constant. -/
lemma asks_reading {x y : Argument} (hsecond : func.readsSecond = true)
    (hadmits : func.admits (x :: y :: args).length = true) :
    Asks func (x :: y :: args) R ↔
      Reads func ((x :: y :: args).map Argument.expr) ∧
        (isEmptySuffix func ((x :: y :: args).map Argument.expr) = false →
          R x ∧ (y.expr.isConst = false → R y) ∧ ∀ a ∈ args, R a) := by
  rw [Asks, hadmits, written, hsecond]
  cases isEmptySuffix func ((x :: y :: args).map Argument.expr) <;>
    cases const : y.expr.isConst <;> simp [const]

/-- What a call asks depends only on the expressions of its arguments, if the facts do. -/
lemma asks_congr {args' : List Argument} {F : Expr → Prop}
    (h : args'.map Argument.expr = args.map Argument.expr) :
    (Asks func args' fun a => F a.expr) ↔ Asks func args fun a => F a.expr := by
  have hlength : args'.length = args.length := by simpa using congrArg List.length h
  have hwritten :
      (written func args').map Argument.expr = (written func args).map Argument.expr := by
    simp only [written, h]
    split
    · rfl
    split
    · rw [← List.eraseIdx_map, ← List.eraseIdx_map, h]
    · exact h
  have hmap : ∀ as : List Argument, (∀ a ∈ as, F a.expr) ↔ ∀ e ∈ as.map Argument.expr, F e :=
    fun _ => List.forall_mem_map.symm
  rw [Asks, Asks, hlength, h, hmap, hmap, hwritten]

/-- A call with a wrong number of arguments fails for that. -/
lemma wrongArity_decides (hE : Includes E (.call func (args.map Argument.expr) :: es))
    (h : func.admits args.length = false) :
    (Emit.fail (wrongArity func args) : Emit α).Decides E (Asks func args R) := by
  have hlength : args.length = (args.map Argument.expr).length := (List.length_map _).symm
  have herr : E (wrongArity func args) := by
    rw [wrongArity, hlength]
    exact hE _ (.callArity List.mem_cons_self (hlength ▸ h))
  exact (Decides.fail herr).congr (by simp [Asks, h])

/-- A call that all dialects have decides what all of its arguments decide together. -/
lemma plain_decides {r : Routine} (h : ∀ a ∈ args, a.scalar.Decides E (R a)) :
    (plain r args).Decides E (∀ a ∈ args, R a) := by
  have hsequence : (plain.sequence args).Decides E (∀ a ∈ args, R a) := by
    induction args with
    | nil => exact (Decides.pure _).congr (by simp)
    | cons a as ih =>
      obtain ⟨ha, has⟩ := List.forall_mem_cons.mp h
      exact (ha.map₂ (ih has)).congr List.forall_mem_cons.symm
  exact hsequence.map

/-- The condition that a call of a test becomes. -/
theorem condition_decides
    (hE : Includes E (.call func (args.map Argument.expr) :: args.map Argument.expr))
    (h : ∀ a ∈ args, a.scalar.Decides E (R a)) (hfunc : func.isPredicate = true) :
    (condition d func args).Decides E (Asks func args R) := by
  have hargs : Includes E (args.map Argument.expr) := hE.mono (List.subset_cons_self _ _)
  -- By the number of arguments first: it alone says whether the call is written at all.
  match args with
  | [] => cases func <;> first | cases hfunc; done | exact wrongArity_decides hE rfl
  | [x] =>
    have hx := h x (by simp)
    cases func with
    | isNullOrEmpty | isNullOrWhiteSpace =>
      refine (hx.map₂ hx).congr ?_
      rw [asks_all rfl rfl (by nofun)]
      simp
    | _ => first | cases hfunc; done | exact wrongArity_decides hE rfl
  | [x, y] =>
    have hx := h x (by simp)
    have hy := h y (by simp)
    have mem : y.expr ∈ [x, y].map Argument.expr := by simp
    cases func with
    | contains =>
      refine (contains_decides hx hy).congr ?_
      exact ((asks_all rfl rfl (by nofun)).trans forall_mem_pair).symm
    | startsWith =>
      refine (startsWith_decides hargs mem hx hy).congr ?_
      rw [asks_reading rfl rfl]
      simp [Reads, isEmptySuffix]
    | endsWith =>
      refine (endsWith_decides hargs mem hx hy).congr ?_
      rw [asks_reading rfl rfl]
      simp [Reads]
    | startsWithIgnoreCase | endsWithIgnoreCase =>
      refine (like_decides hargs mem hx hy).congr ?_
      rw [asks_reading rfl rfl]
      simp [Reads, isEmptySuffix]
    | _ => first | cases hfunc; done | exact wrongArity_decides hE rfl
  | x :: y :: z :: rest =>
    cases func <;> first
      | cases hfunc; done
      | exact wrongArity_decides hE (by simp [Func.admits, Func.arity])

/-- The value that any other call becomes. -/
theorem scalar_decides
    (hE : Includes E (.call func (args.map Argument.expr) :: args.map Argument.expr))
    (h : ∀ a ∈ args, a.scalar.Decides E (R a)) (hfunc : func.isPredicate = false) :
    (scalar d func args).Decides E (Asks func args R) := by
  have hargs : Includes E (args.map Argument.expr) := hE.mono (List.subset_cons_self _ _)
  -- By the number of arguments first: it alone says whether the call is written at all.
  match args with
  | [] =>
    cases func with
    | now | utcNow =>
      refine (Decides.pure _).congr ?_
      rw [asks_all rfl rfl (by nofun)]
      simp
    | _ => first | cases hfunc; done | exact wrongArity_decides hE rfl
  | [x] =>
    have hx := h x (by simp)
    have hone : ∀ {func : Func}, func.admits 1 = true → func.readsSecond = false →
        (∀ ty, func ≠ .convertTo ty) → (R x ↔ Asks func [x] R) :=
      fun hadmits hsecond hconvert =>
        ((asks_all hadmits hsecond hconvert).trans List.forall_mem_singleton).symm
    cases func with
    | toLower | toUpper | trimStart | trimEnd | length | abs | sqrt | log | log10 =>
      exact (plain_decides h).congr (asks_all rfl rfl (by nofun)).symm
    | trim | round => exact hx.map.congr (hone rfl rfl (by nofun))
    | floor | ceiling => exact (roundToward_decides hx).congr (hone rfl rfl (by nofun))
    | convertTo ty =>
      -- Not an instance of `hone`: a class that has no name cannot be converted to, whatever the
      -- operand.
      refine (castTo_decides hE List.mem_cons_self rfl hx).congr ?_
      rw [Asks, written_eq_self rfl]
      simp [Reads, Func.admits, Func.arity, and_comm]
    | year | month | day | hour | minute | second =>
      exact (datePart_decides hx).congr (hone rfl rfl (by nofun))
    | date => exact (dayOf_decides hx).congr (hone rfl rfl (by nofun))
    | dayOfWeek => exact (dayOfWeek_decides hx).congr (hone rfl rfl (by nofun))
    | _ => first | cases hfunc; done | exact wrongArity_decides hE rfl
  | [x, y] =>
    have hx := h x (by simp)
    have hy := h y (by simp)
    have hboth : ∀ {func : Func}, func.admits 2 = true → func.readsSecond = false →
        (∀ ty, func ≠ .convertTo ty) → (R x ∧ R y ↔ Asks func [x, y] R) :=
      fun hadmits hsecond hconvert =>
        ((asks_all hadmits hsecond hconvert).trans forall_mem_pair).symm
    cases func with
    | round | pow => exact (plain_decides h).congr (asks_all rfl rfl (by nofun)).symm
    | substring =>
      have mem : y.expr ∈ [x, y].map Argument.expr := by simp
      have hnone : ∀ n ∈ none, Decides E n.scalar (R n) :=
        fun n hn => absurd hn (Option.not_mem_none n)
      show (substring d x y none).Decides E _
      refine (substring_decides hargs mem hx hy hnone).congr ?_
      rw [asks_reading rfl rfl]
      simp [Reads, isEmptySuffix]
    | indexOf => exact (indexOf_decides hx hy).congr (hboth rfl rfl (by nofun))
    | concat => exact (hx.map₂ hy).congr (hboth rfl rfl (by nofun))
    | max | min => exact (extremum_decides hx hy).congr (hboth rfl rfl (by nofun))
    | addYears | addMonths | addDays | addHours | addMinutes | addSeconds =>
      exact (dateAdd_decides hx hy).congr (hboth rfl rfl (by nofun))
    | _ => first | cases hfunc; done | exact wrongArity_decides hE rfl
  | [x, y, z] =>
    have hx := h x (by simp)
    have hy := h y (by simp)
    cases func with
    | replace => exact (plain_decides h).congr (asks_all rfl rfl (by nofun)).symm
    | substring =>
      have mem : y.expr ∈ [x, y, z].map Argument.expr := by simp
      have hsome : ∀ n ∈ some z, Decides E n.scalar (R n) := by
        rintro n ⟨⟩
        exact h z (by simp)
      show (substring d x y (some z)).Decides E _
      refine (substring_decides hargs mem hx hy hsome).congr ?_
      rw [asks_reading rfl rfl]
      simp [Reads, isEmptySuffix]
    | _ => first | cases hfunc; done | exact wrongArity_decides hE rfl
  | x :: y :: z :: u :: rest =>
    cases func <;> first
      | cases hfunc; done
      | exact wrongArity_decides hE (by simp [Func.admits, Func.arity])

/-- A call of a test becomes a condition just if it has what it asks. -/
theorem condition_succeeds (hfunc : func.isPredicate = true) :
    (condition d func args).Succeeds ↔ Asks func args fun a => a.scalar.Succeeds :=
  (condition_decides (E := fun _ => True) (fun _ _ => trivial)
    (fun _ _ => ⟨Iff.rfl, fun _ _ => trivial⟩) hfunc).succeeds

/-- Any other call becomes a value just if it has what it asks. -/
theorem scalar_succeeds (hfunc : func.isPredicate = false) :
    (scalar d func args).Succeeds ↔ Asks func args fun a => a.scalar.Succeeds :=
  (scalar_decides (E := fun _ => True) (fun _ _ => trivial)
    (fun _ _ => ⟨Iff.rfl, fun _ _ => trivial⟩) hfunc).succeeds

end Arguments

end TableQuery.Sql.Call
