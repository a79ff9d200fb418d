import TableQuery.Proofs.Family.Replacement
import TableQuery.Proofs.Family.Stable
import TableQuery.Proofs.Family.Uniform

/-!
# Families of calls

The forms of a call are uniform if its arguments are, and their pieces have a stable property if
those of the arguments have it.  Some functions read the value of a constant argument in second
place (`Func.readsSecond`).  There the argument must be steady: it does not vary, or it is never
constant.
-/

namespace TableQuery.Sql

variable {W : Type}

/-- The pieces of a family of values have a property. -/
def Scalars (d : Dialect) (Q : (W → List Piece) → Prop) (x : W → Scalar) : Prop :=
  Q fun w => (x w).pieces d

/-- The pieces of a family of conditions have a property. -/
def Conds (d : Dialect) (Q : (W → List Piece) → Prop) (c : W → Cond) : Prop :=
  Q fun w => (c w).pieces d

/-- An argument does not vary, or it is never constant. -/
def Steady (e : W → Expr) : Prop := (∃ e', ∀ w, e w = e') ∨ ∀ w, (e w).isConst = false

/-- Values can be written in a statement: either all of them are null, or none is and they may be
bound. -/
def Bindable (Q : (W → List Piece) → Prop) (v : W → Value) : Prop :=
  (∀ w, (v w).isNull = true) ∨ (∀ w, (v w).isNull = false) ∧ Q fun w => [.param (v w)]

open Emit (Uniform)

variable {d : Dialect} {Q : (W → List Piece) → Prop} {x y : W → Emit Scalar} {func : Func}

/-- A value that does not vary can be written. -/
lemma Bindable.fixed (h : Stable d Q) (v : Value) : Bindable Q fun _ => v := by
  cases hv : v.isNull with
  | true => exact .inl fun _ => hv
  | false => exact .inr ⟨fun _ => hv, h.param v⟩

/-- Literals of values that can be written alike. -/
lemma literal_uniform (h : Stable d Q) {v : W → Value} (hv : Bindable Q v) :
    Uniform (fun w => literal (v w)) (Scalars d Q) := by
  unfold literal
  obtain hv | ⟨hv, hparam⟩ := hv
  · simp only [hv, if_true]
    exact .pure h.null
  · simp only [hv, Bool.false_eq_true, if_false]
    exact .inr ⟨fun w => .param (v w), fun _ => rfl, hparam⟩

namespace Call

/-- The text of a constant pattern does not vary, if the pattern is steady. -/
lemma constantText?_uniform {e : W → Expr} (he : Steady e) :
    Uniform (fun w => constantText? func (e w)) fun o =>
      (∃ s, o = fun _ => some s) ∨ o = fun _ => none := by
  obtain ⟨e', he⟩ | he := he
  · refine Uniform.of_eq (y := fun _ => constantText? func e') (fun w => by rw [he w]) ?_
    unfold constantText?
    split
    · refine .lift_bind fun v _ => ?_
      cases v with
      | text s => exact .pure (.inl ⟨s, rfl⟩)
      | null => exact .fail
      | _ => exact .fail
    · exact .pure (.inr rfl)
  · -- The argument is never constant: the whole family goes without the text.
    refine Uniform.of_eq (y := fun _ => Pure.pure none) (fun w => ?_) (.pure (.inr rfl))
    rw [constantText?, he w]
    rfl

/-- The test that a text contains another. -/
lemma contains_uniform (h : Stable d Q) (hx : Uniform x (Scalars d Q))
    (hy : Uniform y (Scalars d Q)) : Uniform (fun w => contains d (x w) (y w)) (Conds d Q) := by
  unfold contains
  cases hd : d.isSqlServer with
  | true =>
    refine hy.bind fun n hn => hx.bind fun t ht => .pure ?_
    exact h.compared _ (h.call₂ _ hn ht) (h.number 0)
  | false =>
    refine hx.bind fun t ht => hy.bind fun n hn => .pure ?_
    exact h.compared _ (h.call₂ _ ht hn) (h.number 0)

/-- The place of a text in another. -/
lemma indexOf_uniform (h : Stable d Q) (hx : Uniform x (Scalars d Q))
    (hy : Uniform y (Scalars d Q)) : Uniform (fun w => indexOf d (x w) (y w)) (Scalars d Q) := by
  unfold indexOf
  cases hd : d.isSqlServer with
  | true =>
    refine hy.bind fun n hn => hx.bind fun t ht => .pure ?_
    exact h.grouped _ (h.call₂ _ hn ht) (h.number 1)
  | false =>
    refine hx.bind fun t ht => hy.bind fun n hn => .pure ?_
    exact h.grouped _ (h.call₂ _ ht hn) (h.number 1)

section Patterns

variable {text pattern : W → Argument}

/-- The test that a text begins with another. -/
lemma startsWith_uniform (h : Stable d Q) (hx : Uniform (fun w => (text w).scalar) (Scalars d Q))
    (hp : Uniform (fun w => (pattern w).scalar) (Scalars d Q))
    (hsteady : Steady fun w => (pattern w).expr) :
    Uniform (fun w => startsWith func (text w) (pattern w)) (Conds d Q) := by
  unfold startsWith
  refine (constantText?_uniform hsteady).bind ?_
  rintro _ (⟨s, rfl⟩ | rfl)
  · refine hx.bind fun t ht => (literal_uniform h (.fixed h (.text s))).bind fun v hv => .pure ?_
    exact h.compared _ (h.call₃ _ ht (h.number 1) (h.number _)) hv
  · refine hx.bind fun t ht => hp.bind fun n hn => hp.bind fun p hp => .pure ?_
    exact h.compared _ (h.call₃ _ ht (h.number 1) (h.call₁ _ hn)) hp

/-- The test that a text ends with another. -/
lemma endsWith_uniform (h : Stable d Q) (hx : Uniform (fun w => (text w).scalar) (Scalars d Q))
    (hp : Uniform (fun w => (pattern w).scalar) (Scalars d Q))
    (hsteady : Steady fun w => (pattern w).expr) :
    Uniform (fun w => endsWith d func (text w) (pattern w)) (Conds d Q) := by
  unfold endsWith
  refine (constantText?_uniform hsteady).bind ?_
  rintro _ (⟨s, rfl⟩ | rfl)
  · cases hs : s.isEmpty with
    | true =>
      simp only [hs, if_true]
      exact .pure (h.truthCond true)
    | false =>
      simp only [hs, Bool.false_eq_true, if_false]
      refine hx.bind fun t ht => (literal_uniform h (.fixed h (.text s))).bind fun v hv => .pure ?_
      cases d with
      | sqlite => exact h.compared _ (h.call₂ _ ht (h.negate (h.number _))) hv
      | _ => exact h.compared _ (h.call₂ _ ht (h.number _)) hv
  · refine hx.bind fun t ht => hp.bind fun n hn => ?_
    cases d with
    | sqlite =>
      refine hp.bind fun m hm => hp.bind fun p hp => .pure ?_
      exact h.compared _ (h.call₃ _ ht (h.negate (h.call₁ _ hn)) (h.call₁ _ hm)) hp
    | _ =>
      refine hp.bind fun p hp => .pure ?_
      exact h.compared _ (h.call₂ _ ht (h.call₁ _ hn)) hp

/-- A pattern in which the server escapes the wildcards. -/
lemma escapedByServer_stable {x : W → Scalar} (h : Stable d Q) (hx : Scalars d Q x) :
    Scalars d Q fun w => escapedByServer d (x w) := by
  unfold escapedByServer
  generalize wildcards d = cs
  induction cs generalizing x with
  | nil => exact hx
  | cons c cs ih => exact ih (h.call₃ _ hx (h.text _) (h.text _))

/-- The test that a text begins or ends with another, ignoring case. -/
lemma like_uniform (h : Stable d Q) {atStart : Bool}
    (hx : Uniform (fun w => (text w).scalar) (Scalars d Q))
    (hp : Uniform (fun w => (pattern w).scalar) (Scalars d Q))
    (hsteady : Steady fun w => (pattern w).expr) :
    Uniform (fun w => like d func atStart (text w) (pattern w)) (Conds d Q) := by
  unfold like
  refine (constantText?_uniform hsteady).bind ?_
  rintro _ (⟨s, rfl⟩ | rfl)
  · refine hx.bind fun t ht => (literal_uniform h (.fixed h _)).bind fun v hv => .pure ?_
    exact h.parenCond (h.like _ ht hv)
  · refine hx.bind fun t ht => hp.bind fun p hp => .pure ?_
    have hbody := escapedByServer_stable h hp
    cases atStart with
    | true => exact h.parenCond (h.like _ ht (h.paren (h.concat hbody (h.text _))))
    | false => exact h.parenCond (h.like _ ht (h.paren (h.concat (h.text _) hbody)))

/-- A place counted from one. -/
lemma placeFromOne_uniform (h : Stable d Q)
    (hp : Uniform (fun w => (pattern w).scalar) (Scalars d Q))
    (hsteady : Steady fun w => (pattern w).expr) :
    Uniform (fun w => placeFromOne (pattern w)) (Scalars d Q) := by
  have hserver : Uniform (fun w => do return grouped .add (← (pattern w).scalar) (.number 1))
      (Scalars d Q) := hp.bind fun p hp => .pure (h.grouped _ hp (h.number 1))
  unfold placeFromOne
  obtain ⟨e, he⟩ | he := hsteady
  · simp only [he]
    cases hconst : e.isConst with
    | false => exact hserver
    | true =>
      refine .lift_bind fun v _ => ?_
      cases v with
      | int n =>
        dsimp only
        cases Number.int64? (n.toInt + 1) with
        | some m => exact literal_uniform h (.fixed h _)
        | none => exact .fail
      | _ => exact .fail
  · simp only [he]
    exact hserver

/-- A part of a text, with or without a length. -/
lemma substring_uniform (h : Stable d Q) (length : Option (W → Argument))
    (hx : Uniform (fun w => (text w).scalar) (Scalars d Q))
    (hp : Uniform (fun w => (pattern w).scalar) (Scalars d Q))
    (hsteady : Steady fun w => (pattern w).expr)
    (hn : ∀ n ∈ length, Uniform (fun w => (n w).scalar) (Scalars d Q)) :
    Uniform (fun w => substring d (text w) (pattern w) (length.map (· w))) (Scalars d Q) := by
  unfold substring
  refine hx.bind fun t ht => (placeFromOne_uniform h hp hsteady).bind fun p hp => ?_
  cases length with
  | some n => exact (hn n rfl).bind fun m hm => .pure (h.call₃ _ ht hp hm)
  | none =>
    cases hd : d.isSqlServer with
    | true => exact hx.bind fun u hu => .pure (h.call₃ _ ht hp (h.call₁ _ hu))
    | false => exact .pure (h.call₂ _ ht hp)

end Patterns

/-- A number rounded up or down. -/
lemma roundToward_uniform (h : Stable d Q) {up : Bool} (hx : Uniform x (Scalars d Q)) :
    Uniform (fun w => roundToward d up (x w)) (Scalars d Q) := by
  have hwhole : Uniform (fun w => do return Scalar.cast (← x w) .integer) (Scalars d Q) :=
    hx.bind fun t ht => .pure (h.cast _ ht)
  unfold roundToward
  cases d with
  | sqlite =>
    refine hx.bind fun t ht => hwhole.bind fun n hn => hwhole.bind fun m hm =>
      hwhole.bind fun k hk => .pure ?_
    exact h.chosen (h.compare _ ht hn) (h.operator _ hm (h.number 1)) hk
  | _ => exact hx.bind fun t ht => .pure (h.call₁ _ ht)

/-- The larger or the smaller of two numbers. -/
lemma extremum_uniform (h : Stable d Q) {larger : Bool} (hx : Uniform x (Scalars d Q))
    (hy : Uniform y (Scalars d Q)) :
    Uniform (fun w => extremum d larger (x w) (y w)) (Scalars d Q) := by
  unfold extremum
  cases hd : d.isSqlServer with
  | true =>
    refine hx.bind fun t ht => hy.bind fun u hu => hx.bind fun t' ht' => hy.bind fun u' hu' =>
      .pure ?_
    exact h.chosen (h.compare _ ht hu) ht' hu'
  | false => exact hx.bind fun t ht => hy.bind fun u hu => .pure (h.call₂ _ ht hu)

/-- A part of a date. -/
lemma datePart_uniform (h : Stable d Q) {f : DateField} (hx : Uniform x (Scalars d Q)) :
    Uniform (fun w => datePart d f (x w)) (Scalars d Q) := by
  unfold datePart
  cases d with
  | sqlite => exact hx.bind fun t ht => .pure (h.cast _ (h.call₂ _ (h.text _) ht))
  | sqlServer => exact hx.bind fun t ht => .pure (h.datePart f ht)
  | postgreSql =>
    refine hx.bind fun t ht => .pure (h.cast _ ?_)
    by_cases hf : f = .second
    · simp only [hf, if_true]
      exact h.call₁ _ (h.extract _ ht)
    · simp only [hf, if_false]
      exact h.extract f ht

/-- A date some time later. -/
lemma dateAdd_uniform (h : Stable d Q) {f : DateField} (hx : Uniform x (Scalars d Q))
    (hy : Uniform y (Scalars d Q)) : Uniform (fun w => dateAdd d f (x w) (y w)) (Scalars d Q) := by
  unfold dateAdd
  cases d with
  | sqlite =>
    refine hx.bind fun t ht => hy.bind fun n hn => .pure ?_
    exact h.call₂ _ ht (h.paren (h.concat hn (h.text _)))
  | postgreSql =>
    refine hx.bind fun t ht => hy.bind fun n hn => .pure ?_
    exact h.grouped _ ht (h.interval f hn)
  | sqlServer => exact hy.bind fun n hn => hx.bind fun t ht => .pure (h.dateAdd f hn ht)

/-- A date without the time of day. -/
lemma dayOf_uniform (h : Stable d Q) (hx : Uniform x (Scalars d Q)) :
    Uniform (fun w => dayOf d (x w)) (Scalars d Q) := by
  unfold dayOf
  cases d with
  | sqlite => exact hx.bind fun t ht => .pure (h.call₁ _ (h.call₁ _ ht))
  | postgreSql => exact hx.bind fun t ht => .pure (h.call₂ _ (h.text _) ht)
  | sqlServer => exact hx.bind fun t ht => .pure (h.cast _ (h.cast _ ht))

/-- The day of the week of a date. -/
lemma dayOfWeek_uniform (h : Stable d Q) (hx : Uniform x (Scalars d Q)) :
    Uniform (fun w => dayOfWeek d (x w)) (Scalars d Q) := by
  unfold dayOfWeek
  cases d with
  | sqlite => exact hx.bind fun t ht => .pure (h.cast _ (h.call₂ _ (h.text _) ht))
  | postgreSql => exact hx.bind fun t ht => .pure (h.cast _ (h.extractWeekday ht))
  | sqlServer =>
    refine hx.bind fun t ht => .pure ?_
    have hshifted := h.operator .add (h.datePartWeekday ht) h.dateFirst
    exact h.grouped _ (h.grouped _ hshifted (h.number 1)) (h.number 7)

/-- The present time, at the server and everywhere. -/
lemma now_stable (h : Stable d Q) :
    Scalars d Q (fun _ => localNow d) ∧ Scalars d Q (fun _ => universalNow d) := by
  cases d with
  | sqlite => exact ⟨h.call₂ _ (h.text _) (h.text _), h.call₁ _ (h.text _)⟩
  | postgreSql => exact ⟨h.localTimestamp, h.paren (h.atTimeZone _ (h.call₀ _))⟩
  | sqlServer => exact ⟨h.call₀ _, h.call₀ _⟩

/-- A text without the blanks at its ends. -/
lemma trimmed_stable {x : W → Scalar} (h : Stable d Q) (hx : Scalars d Q x) :
    Scalars d Q fun w => trimmed d (x w) := by
  unfold trimmed
  cases hd : d.isSqlServer with
  | true => exact h.call₁ _ (h.call₁ _ hx)
  | false => exact h.call₁ _ hx

/-- A conversion to a storage class. -/
lemma castTo_uniform (h : Stable d Q) {ty : ColumnType} (hx : Uniform x (Scalars d Q)) :
    Uniform (fun w => castTo d ty (x w)) (Scalars d Q) := by
  unfold castTo
  cases TypeName.of? d ty with
  | some name => exact hx.bind fun t ht => .pure (h.cast name ht)
  | none => exact .fail

section Arguments

variable {as : List (W → Argument)}

/-- Several arguments of a family of calls. -/
def Arguments (d : Dialect) (Q : (W → List Piece) → Prop) (as : List (W → Argument)) : Prop :=
  ∀ a ∈ as, Uniform (fun w => (a w).scalar) (Scalars d Q)

/-- A call of the routine that a function stands for. -/
lemma plain_uniform (h : Stable d Q) {r : Routine} (ha : Arguments d Q as) :
    Uniform (fun w => plain r (as.map (· w))) (Scalars d Q) := by
  have hsequence : Uniform (fun w => plain.sequence (as.map (· w))) fun x =>
      ∃ xs : List (W → Scalar), x = (fun w => xs.map (· w)) ∧ ∀ y ∈ xs, Scalars d Q y := by
    induction as with
    | nil => exact .pure ⟨[], rfl, List.forall_mem_nil _⟩
    | cons a as ih =>
      have has : Arguments d Q as := fun b hb => ha b (List.mem_cons_of_mem a hb)
      refine (ha a List.mem_cons_self).bind fun x hx => (ih has).bind ?_
      rintro _ ⟨xs, rfl, hxs⟩
      exact .pure ⟨x :: xs, rfl, List.forall_mem_cons.mpr ⟨hx, hxs⟩⟩
  refine hsequence.bind ?_
  rintro _ ⟨xs, rfl, hxs⟩
  exact .pure (h.call r _ (h.list hxs))

/-- A call with the wrong number of arguments fails with one error. -/
lemma wrongArity_uniform {α : Type} {P : (W → α) → Prop} (func : Func)
    (as : List (W → Argument)) :
    Uniform (fun w => (Emit.fail (wrongArity func (as.map (· w))) : Emit α)) P := by
  refine .inl ⟨.invalidArgument (.callArity func as.length), fun w => ?_⟩
  have he : wrongArity func (as.map (· w)) = .invalidArgument (.callArity func as.length) := by
    simp only [wrongArity, List.length_map]
  exact congrArg Except.error he

/-- The condition that a call of a test becomes. -/
theorem condition_uniform (h : Stable d Q) (ha : Arguments d Q as)
    (hsteady : func.readsSecond = true → ∀ a ∈ as[1]?, Steady fun w => (a w).expr) :
    Uniform (fun w => condition d func (as.map (· w))) (Conds d Q) := by
  match as with
  | [] => cases func <;> exact wrongArity_uniform _ []
  | [x] =>
    have hx := ha x List.mem_cons_self
    cases func with
    | isNullOrEmpty =>
      refine hx.bind fun t ht => hx.bind fun u hu => .pure ?_
      exact h.parenCond (h.or (h.isNull ht) (h.compare _ hu (h.text _)))
    | isNullOrWhiteSpace =>
      refine hx.bind fun t ht => hx.bind fun u hu => .pure ?_
      exact h.parenCond (h.or (h.isNull ht) (h.compare _ (trimmed_stable h hu) (h.text _)))
    | _ => exact wrongArity_uniform _ [x]
  | [x, y] =>
    have hx := ha x List.mem_cons_self
    have hy := ha y (List.mem_cons_of_mem x List.mem_cons_self)
    cases func with
    | contains => exact contains_uniform h hx hy
    | startsWith => exact startsWith_uniform h hx hy (hsteady rfl y rfl)
    | endsWith => exact endsWith_uniform h hx hy (hsteady rfl y rfl)
    | startsWithIgnoreCase => exact like_uniform h hx hy (hsteady rfl y rfl)
    | endsWithIgnoreCase => exact like_uniform h hx hy (hsteady rfl y rfl)
    | _ => exact wrongArity_uniform _ [x, y]
  | x :: y :: z :: rest => cases func <;> exact wrongArity_uniform _ (x :: y :: z :: rest)

/-- The value that any other call becomes. -/
theorem scalar_uniform (h : Stable d Q) (ha : Arguments d Q as)
    (hsteady : func.readsSecond = true → ∀ a ∈ as[1]?, Steady fun w => (a w).expr) :
    Uniform (fun w => scalar d func (as.map (· w))) (Scalars d Q) := by
  -- By the number of arguments first, since this decides which functions accept them.
  match as, ha with
  | [], _ =>
    cases func with
    | now => exact .pure (now_stable h).1
    | utcNow => exact .pure (now_stable h).2
    | _ => exact wrongArity_uniform _ []
  | [x], ha =>
    have hx := ha x List.mem_cons_self
    cases func with
    | toLower | toUpper | trimStart | trimEnd | length | abs | sqrt | log | log10 =>
      exact plain_uniform h ha
    | trim => exact hx.bind fun t ht => .pure (trimmed_stable h ht)
    | round =>
      refine hx.bind fun t ht => .pure ?_
      cases hd : d.isSqlServer with
      | true => exact h.call₂ _ ht (h.number 0)
      | false => exact h.call₁ _ ht
    | floor | ceiling => exact roundToward_uniform h hx
    | convertTo ty => exact castTo_uniform h hx
    | year | month | day | hour | minute | second => exact datePart_uniform h hx
    | date => exact dayOf_uniform h hx
    | dayOfWeek => exact dayOfWeek_uniform h hx
    | _ => exact wrongArity_uniform _ [x]
  | [x, y], ha =>
    have hx := ha x List.mem_cons_self
    have hy := ha y (List.mem_cons_of_mem x List.mem_cons_self)
    cases func with
    | round | pow => exact plain_uniform h ha
    | substring =>
      have hnone : ∀ n ∈ (none : Option (W → Argument)),
          Uniform (fun w => (n w).scalar) (Scalars d Q) :=
        fun n hn => absurd hn (Option.not_mem_none n)
      exact substring_uniform h none hx hy (hsteady rfl y rfl) hnone
    | indexOf => exact indexOf_uniform h hx hy
    | concat => exact hx.bind fun t ht => hy.bind fun u hu => .pure (h.paren (h.concat ht hu))
    | max | min => exact extremum_uniform h hx hy
    | addYears | addMonths | addDays | addHours | addMinutes | addSeconds =>
      exact dateAdd_uniform h hx hy
    | _ => exact wrongArity_uniform _ [x, y]
  | [x, y, z], ha =>
    have hx := ha x List.mem_cons_self
    have hy := ha y (List.mem_cons_of_mem x List.mem_cons_self)
    cases func with
    | replace => exact plain_uniform h ha
    | substring =>
      have hlength : ∀ n ∈ some z, Uniform (fun w => (n w).scalar) (Scalars d Q) := by
        intro n hn
        cases hn
        exact ha z (by simp)
      exact substring_uniform h (some z) hx hy (hsteady rfl y rfl) hlength
    | _ => exact wrongArity_uniform _ [x, y, z]
  | x :: y :: z :: u :: rest, _ =>
    cases func <;> exact wrongArity_uniform _ (x :: y :: z :: u :: rest)

end Arguments

end Call

end TableQuery.Sql
