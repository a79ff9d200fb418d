import TableQuery.Proofs.Conversion.Blanks
import TableQuery.Proofs.Function.Evaluation
import TableQuery.Proofs.Schema.Index

/-!
# Trimmed texts

The functions of texts that are computed ahead if their arguments are constants, beside what SQLite
and PostgreSQL make of the same calls.  Lengths and texts that are joined are the same.

The functions that trim are not: a constant loses all white space at its ends, while the server
removes spaces only.  The two agree just on the texts in which no other white space is left at the
ends that are trimmed (`constant_calls_agree`).
-/

namespace TableQuery.Sql

section OneEnd

variable {p q : Char → Bool} {cs : List Char}

/-- What is left does not begin with what was dropped. -/
lemma head?_of_dropWhile : ∀ c ∈ (cs.dropWhile p).head?, p c = false := by
  intro c hc
  have hhead := List.head?_dropWhile_not p cs
  rw [Option.mem_def.mp hc] at hhead
  exact hhead

/-- To drop fewer characters first makes no difference. -/
lemma dropWhile_dropWhile (h : ∀ c, q c = true → p c = true) :
    (cs.dropWhile q).dropWhile p = cs.dropWhile p := by
  induction cs with
  | nil => rfl
  | cons c cs ih =>
    cases hq : q c with
    | true => rw [List.dropWhile_cons_of_pos hq, List.dropWhile_cons_of_pos (h c hq), ih]
    | false => rw [List.dropWhile_cons_of_neg (by simp [hq])]

/-- What is left does not end in what was dropped. -/
lemma getLast?_of_rdropWhile : ∀ c ∈ (cs.rdropWhile p).getLast?, p c = false := by
  rw [List.rdropWhile, List.getLast?_reverse]
  exact head?_of_dropWhile

/-- To drop fewer characters from the end first makes no difference. -/
lemma rdropWhile_rdropWhile (h : ∀ c, q c = true → p c = true) :
    (cs.rdropWhile q).rdropWhile p = cs.rdropWhile p := by
  rw [List.rdropWhile, List.rdropWhile, List.reverse_reverse, dropWhile_dropWhile h,
    List.rdropWhile]

/-- What is left at the end of a text with one more character before it. -/
lemma rdropWhile_cons (c : Char) :
    (c :: cs).rdropWhile p =
      if (cs.rdropWhile p).isEmpty then (if p c then [] else [c]) else c :: cs.rdropWhile p := by
  rw [List.rdropWhile, List.reverse_cons, List.dropWhile_append, List.rdropWhile,
    List.isEmpty_reverse]
  split
  · cases hc : p c <;> simp [hc]
  · rw [List.reverse_append, List.reverse_singleton, List.singleton_append]

/-- It makes no difference which end is trimmed first. -/
lemma rdropWhile_dropWhile : (cs.dropWhile p).rdropWhile p = (cs.rdropWhile p).dropWhile p := by
  induction cs with
  | nil => rfl
  | cons c cs ih =>
    rw [rdropWhile_cons]
    cases hc : p c with
    | true =>
      rw [List.dropWhile_cons_of_pos hc, ih]
      split
      case isTrue hnil => rw [List.isEmpty_iff.mp hnil, if_pos rfl]
      case isFalse => rw [List.dropWhile_cons_of_pos hc]
    | false =>
      have hfirst : ¬ p c = true := by simp [hc]
      rw [List.dropWhile_cons_of_neg hfirst, rdropWhile_cons]
      split
      · rw [if_neg Bool.false_ne_true, List.dropWhile_cons_of_neg hfirst]
      · rw [List.dropWhile_cons_of_neg hfirst]

end OneEnd

/-- The characters have none of a kind at the ends. -/
structure Bare (p : Char → Bool) (ends : Ends) (cs : List Char) : Prop where
  start : ends.start = true → ∀ c ∈ cs.head?, p c = false
  stop : ends.stop = true → ∀ c ∈ cs.getLast?, p c = false

section Ends

variable {p q : Char → Bool} {ends : Ends} {cs : List Char}

/-- What is left has bare ends. -/
lemma strip_bare : Bare p ends (strip p ends cs) := by
  rcases ends with ⟨_ | _, _ | _⟩
  · exact ⟨nofun, nofun⟩
  · exact ⟨nofun, fun _ => getLast?_of_rdropWhile⟩
  · exact ⟨fun _ => head?_of_dropWhile, nofun⟩
  · refine ⟨fun _ => ?_, fun _ => getLast?_of_rdropWhile⟩
    show ∀ c ∈ ((cs.dropWhile p).rdropWhile p).head?, p c = false
    rw [rdropWhile_dropWhile]
    exact head?_of_dropWhile

/-- Nothing is stripped from what has bare ends. -/
lemma strip_of_bare (h : Bare p ends cs) : strip p ends cs = cs := by
  rcases ends with ⟨_ | _, _ | _⟩
  · rfl
  · exact rdropWhile_of_getLast? (h.stop rfl)
  · exact dropWhile_of_head? (h.start rfl)
  · show (cs.dropWhile p).rdropWhile p = cs
    rw [dropWhile_of_head? (h.start rfl), rdropWhile_of_getLast? (h.stop rfl)]

/-- Characters of some of the kinds may be removed first. -/
lemma strip_strip (h : ∀ c, q c = true → p c = true) :
    strip p ends (strip q ends cs) = strip p ends cs := by
  rcases ends with ⟨_ | _, _ | _⟩
  · rfl
  · exact rdropWhile_rdropWhile h
  · exact dropWhile_dropWhile h
  · show (((cs.dropWhile q).rdropWhile q).dropWhile p).rdropWhile p =
      (cs.dropWhile p).rdropWhile p
    rw [rdropWhile_dropWhile, rdropWhile_rdropWhile h, ← rdropWhile_dropWhile,
      dropWhile_dropWhile h]

/-- Removing more kinds of characters makes no difference just if none is left without it. -/
lemma strip_eq_strip_iff (h : ∀ c, q c = true → p c = true) :
    strip p ends cs = strip q ends cs ↔ Bare p ends (strip q ends cs) := by
  constructor
  · intro heq
    rw [← heq]
    exact strip_bare
  · intro hbare
    rw [← strip_strip h, strip_of_bare hbare]

end Ends

/-- A space is a blank. -/
lemma isBlank_of_isSpace (c : Char) (h : isSpace c = true) : Text.isBlank c = true := by
  rw [isSpace, beq_iff_eq] at h
  rw [h]
  rfl

/-- The ends that a function trims, if it is one that trims. -/
def trimmedEnds? : Func → Option Ends
  | .trim => some ⟨true, true⟩
  | .trimStart => some ⟨true, false⟩
  | .trimEnd => some ⟨false, true⟩
  | _ => none

section Calls

variable {d : Dialect} {given : Phrase → Option Datum} {q : Query} {x y : Expr} {s t : String}

/-- A call that is no test is compiled if its value has a tree, and the server has for its text what
it has for the value. -/
lemma datum?_of_call {func : Func} {args : List Expr} {r : Datum}
    (hconst : (Expr.call func args).isConst = false) (htest : func.isPredicate = false)
    (h : ∃ a, (Call.scalar d func (argumentForms args (Context.top d q))).result = .ok a ∧
      a.Has d given r) :
    ∃ st, (Expr.call func args).compile d q = .ok st ∧ st.datum? d given = some r := by
  obtain ⟨a, ha, p, hap, hp⟩ := h
  have hscalar : (formsOf (.call func args) (Context.top d q)).scalar.result = .ok a := by
    rw [formsOf, Forms.unlessConstant, hconst, if_neg Bool.false_ne_true, htest,
      if_neg Bool.false_ne_true]
    exact ha
  have hfragment : (ofExpr d q (.call func args)).result = .ok (.scalar a) := by
    rw [ofExpr, Expr.isPredicate, htest, if_neg Bool.false_ne_true, Emit.result_bind_ok hscalar]
    rfl
  obtain ⟨st, hst, hread⟩ := Expr.exists_compile hfragment
  refine ⟨st, hst, ?_⟩
  rw [Statement.datum?, hread, Fragment.phrases, hap]
  exact hp

/-- The call of a routine with one argument succeeds if the argument does. -/
lemma plain_result {r : Routine} {arg : Argument} {a : Scalar} (h : arg.scalar.result = .ok a) :
    (Call.plain r [arg]).result = .ok (.call r [a]) := by
  have hargs : (Call.plain.sequence [arg]).result = .ok [a] := by
    rw [Call.plain.sequence, Emit.result_bind_ok h]
    rfl
  rw [Call.plain, Emit.result_bind_ok hargs]
  rfl

/-- The function of a server that trims the ends of a text. -/
def Ends.routine : Ends → Routine
  | ⟨true, false⟩ => .trimStart
  | ⟨false, true⟩ => .trimEnd
  | _ => .trim

/-- The call that trims a text succeeds if its argument does. -/
lemma trimmed_result {func : Func} {ends : Ends} {arg : Argument} {a : Scalar} (hd : d ≠ .sqlServer)
    (hfunc : trimmedEnds? func = some ends) (h : arg.scalar.result = .ok a) :
    (Call.scalar d func [arg]).result = .ok (.call ends.routine [a]) := by
  cases func <;> cases hfunc
  case trim =>
    show (arg.scalar >>= fun x => pure (Call.trimmed d x)).result = _
    rw [Emit.result_bind_ok h, Call.trimmed]
    cases d with
    | sqlServer => exact absurd rfl hd
    | _ => rfl
  case trimStart => exact plain_result h
  case trimEnd => exact plain_result h

/-- The server trims spaces. -/
lemma has_trimmed {func : Func} {ends : Ends} {a : Scalar} (hd : d ≠ .sqlServer)
    (hfunc : trimmedEnds? func = some ends) (ha : a.Has d given (.text s)) :
    (Scalar.call ends.routine [a]).Has d given (.text (.ofList (strip isSpace ends s.toList))) := by
  apply has_call ha
  cases d with
  | sqlServer => exact absurd rfl hd
  | _ => cases func <;> cases hfunc <;> rfl

/-- A constant loses all white space. -/
lemma fold_trimmed {func : Func} {ends : Ends} (hfunc : trimmedEnds? func = some ends) :
    (Expr.call func [.value (.text s)]).fold =
      .ok (.text (.ofList (strip Text.isBlank ends s.toList))) := by
  cases func <;> cases hfunc <;> rfl

/-- The statement that trims a text has it without the spaces at its ends. -/
lemma compile_trimmed {func : Func} {ends : Ends} (hd : d ≠ .sqlServer)
    (hx : OperandHas d given q x (.text s)) (hconst : x.isConst = false)
    (hfunc : trimmedEnds? func = some ends) :
    ∃ st, (Expr.call func [x]).compile d q = .ok st ∧
      st.datum? d given = some (.text (.ofList (strip isSpace ends s.toList))) := by
  obtain ⟨a, hxa, ha⟩ := hx
  have htest : func.isPredicate = false := by
    cases func <;> cases hfunc <;> rfl
  apply datum?_of_call (by simp [Expr.isConst, Expr.areConst, hconst]) htest
  exact ⟨_, trimmed_result hd hfunc hxa, has_trimmed hd hfunc ha⟩

/-- The statement of a length has the number of characters. -/
lemma compile_length (hd : d ≠ .sqlServer) (hx : OperandHas d given q x (.text s))
    (hconst : x.isConst = false) :
    ∃ st, (Expr.call .length [x]).compile d q = .ok st ∧
      st.datum? d given = some (.number s.toList.length) := by
  obtain ⟨a, hxa, ha⟩ := hx
  apply datum?_of_call (by simp [Expr.isConst, Expr.areConst, hconst]) rfl
  exact ⟨_, plain_result hxa, has_length hd ha⟩

/-- The statement of a concatenation has both texts together. -/
lemma compile_concat (hd : d ≠ .sqlServer) (hx : OperandHas d given q x (.text s))
    (hy : OperandHas d given q y (.text t)) (hconst : (x.isConst && y.isConst) = false) :
    ∃ st, (Expr.call .concat [x, y]).compile d q = .ok st ∧
      st.datum? d given = some (.text (s ++ t)) := by
  obtain ⟨a, hxa, ha⟩ := hx
  obtain ⟨b, hyb, hb⟩ := hy
  have hresult : (Call.scalar d .concat (argumentForms [x, y] (Context.top d q))).result =
      .ok (.paren (.concat a b)) := by
    show ((formsOf x _).scalar >>= fun left => (formsOf y _).scalar >>= fun right =>
      pure (Scalar.paren (.concat left right))).result = _
    rw [Emit.result_bind_ok hxa, Emit.result_bind_ok hyb]
    rfl
  apply datum?_of_call (by simp [Expr.isConst, Expr.areConst, hconst]) rfl
  exact ⟨_, hresult, has_concat hd ha hb⟩

end Calls

/-- The calls of functions of texts that are computed ahead for constants have what the server has
for the same calls on operands that are not constant.  A trimmed text has it just if no other white
space than spaces is left at its ends by the server. -/
theorem constant_calls_agree (d : Dialect) (given : Phrase → Option Datum) (q : Query)
    (hd : d ≠ .sqlServer) :
    (∀ x s func ends, OperandHas d given q x (.text s) → x.isConst = false →
      trimmedEnds? func = some ends →
      ∃ st w, (Expr.call func [x]).compile d q = .ok st ∧ st.datum? d given = some (.text w) ∧
        w.toList = strip isSpace ends s.toList ∧
        ((Expr.call func [.value (.text s)]).fold = .ok (.text w) ↔
          Bare Text.isBlank ends w.toList)) ∧
    (∀ x s, OperandHas d given q x (.text s) → x.isConst = false →
      ∃ st r, (Expr.call .length [x]).compile d q = .ok st ∧ st.datum? d given = some r ∧
        (Expr.call .length [.value (.text s)]).fold = .ok r.value) ∧
    ∀ x y s t, OperandHas d given q x (.text s) → OperandHas d given q y (.text t) →
      (x.isConst && y.isConst) = false →
      ∃ st r, (Expr.call .concat [x, y]).compile d q = .ok st ∧ st.datum? d given = some r ∧
        (Expr.call .concat [.value (.text s), .value (.text t)]).fold = .ok r.value := by
  refine ⟨?trims, ?length, ?concat⟩
  case trims =>
    intro x s func ends hx hconst hfunc
    obtain ⟨st, hst, hdatum⟩ := compile_trimmed hd hx hconst hfunc
    refine ⟨st, _, hst, hdatum, String.toList_ofList, ?_⟩
    rw [fold_trimmed hfunc, Except.ok.injEq, Value.text.injEq, String.ofList_inj,
      String.toList_ofList]
    -- Folding strips every blank and the server spaces, which are blanks.
    exact strip_eq_strip_iff isBlank_of_isSpace
  case length =>
    intro x s hx hconst
    obtain ⟨st, hst, hdatum⟩ := compile_length hd hx hconst
    exact ⟨st, _, hst, hdatum, rfl⟩
  case concat =>
    intro x y s t hx hy hconst
    obtain ⟨st, hst, hdatum⟩ := compile_concat hd hx hy hconst
    exact ⟨st, _, hst, hdatum, rfl⟩

/-- A table of stickers. -/
def stickerTable : Table :=
  .of "Sticker" [⟨"label", "Label", .text, false, false⟩] (by decide)

/-- A server that has a text for the column of a sticker. -/
def stickerText (s : String) : Phrase → Option Datum
  | .column none "label" => some (.text s)
  | _ => none

/-- The text of a sticker is what the server is given for it. -/
lemma sticker_has (s : String) :
    OperandHas .sqlite (stickerText s) (Query.all stickerTable ⟨0⟩) (.column ⟨⟨0⟩, 0⟩) (.text s) :=
  ⟨_, rfl, _, rfl, datum?_column none "label"⟩

/-- The spaces around a sticker's label are trimmed, and the tab inside it stays. -/
theorem constant_calls_agree_sticker :
    ∃ st, (Expr.call .trim [.column ⟨⟨0⟩, 0⟩]).compile .sqlite (Query.all stickerTable ⟨0⟩) =
        .ok st ∧
      st.datum? .sqlite (stickerText " a\tb ") = some (.text "a\tb") ∧
      (Expr.call .trim [.value (.text " a\tb ")]).fold = .ok (.text "a\tb") := by
  obtain ⟨hagree, -, -⟩ := constant_calls_agree .sqlite (stickerText " a\tb ")
    (Query.all stickerTable ⟨0⟩) (by decide)
  obtain ⟨st, w, hst, hdatum, hw, hiff⟩ := hagree _ _ .trim _ (sticker_has " a\tb ") rfl rfl
  have htext : w = "a\tb" := String.toList_inj.mp hw
  rw [htext] at hdatum hiff
  have hbare : Bare Text.isBlank ⟨true, true⟩ "a\tb".toList := by
    refine ⟨fun _ c hc => ?_, fun _ c hc => ?_⟩
    · cases hc
      rfl
    · cases hc
      rfl
  exact ⟨st, hst, hdatum, hiff.mpr hbare⟩

/-- The tab that a label begins with is trimmed if the label is a constant, and stays if it is a
column. -/
theorem leading_tab_stays :
    ∃ st, (Expr.call .trim [.column ⟨⟨0⟩, 0⟩]).compile .sqlite (Query.all stickerTable ⟨0⟩) =
        .ok st ∧
      st.datum? .sqlite (stickerText "\tx") = some (.text "\tx") ∧
      (Expr.call .trim [.value (.text "\tx")]).fold = .ok (.text "x") := by
  obtain ⟨st, hst, hdatum⟩ := compile_trimmed (by decide) (sticker_has "\tx") rfl
    (show trimmedEnds? .trim = some ⟨true, true⟩ from rfl)
  exact ⟨st, hst, hdatum, rfl⟩

end TableQuery.Sql
