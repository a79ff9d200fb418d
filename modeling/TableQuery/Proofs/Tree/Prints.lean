import TableQuery.Proofs.Tree.Phrases

/-!
# Trees print their phrases

The text of a tree that is written as it should be is read as the phrases of the tree
(`Scalar.prints`, `Cond.prints`, `Select.prints`).  The proof is by induction on the tree: the text
of each node is assembled from those of its parts.
-/

namespace TableQuery.Sql

variable {d : Dialect}

/-- A word that begins with no symbol. -/
lemma Unsigned.word {s : String} {us : List Piece} {c : Char} {cs : List Char}
    (hs : s.toList = c :: cs) (hc : isSymbolChar c = false) : Unsigned d (.word s :: us) := by
  intro n x hx
  rw [piecesText_word, String.toList_append, hs] at hx
  cases hx
  exact hc

/-- A plain name begins with no symbol. -/
lemma Unsigned.name {s : String} {us : List Piece} (hs : isPlainName s = true) :
    Unsigned d (.word s :: us) := by
  obtain ⟨c, cs, hcs, hc, -⟩ := chars_of_isPlainName hs
  exact Unsigned.word hcs (not_isSymbolChar_of_nameChar hc)

/-- A quoted name begins with no symbol. -/
lemma Unsigned.identifier {name : String} {us : List Piece} :
    Unsigned d (.identifier name :: us) := by
  intro n x hx
  rw [piecesText, String.toList_append, Piece.text, Dialect.quoteIdentifier,
    String.toList_ofList] at hx
  cases hx
  cases d <;> rfl

/-- A value of a single phrase begins with no symbol. -/
lemma Scalar.unsigned {x : Scalar} (h : x.isSingle = true) : Unsigned d (x.pieces d) := by
  cases x with
  | null => exact Unsigned.name rfl
  | number n => exact Unsigned.name (isPlainName_numeral n)
  | truth b => exact Unsigned.name (by cases b <;> cases d <;> rfl)
  -- A text and a placeholder are no words: their first character is that of their notation.
  | text s =>
    intro n x hx
    have ht : (piecesText d n (Scalar.pieces d (.text s))).toList.head? = some '\'' := by
      change (("'" ++ s ++ "'") ++ "").toList.head? = _
      simp
    rw [ht] at hx
    cases hx
    rfl
  | param v =>
    intro n x hx
    rw [Scalar.pieces, piecesText, String.toList_append, Piece.text, toList_placeholder] at hx
    cases hx
    cases d <;> rfl
  | column c =>
    obtain ⟨qualifier, name, row⟩ := c
    cases qualifier with
    | none => exact Unsigned.identifier
    | some table => exact Unsigned.identifier
  | call r args => exact Unsigned.name (name_routine r).1
  | cast x ty => exact Unsigned.word rfl rfl
  | extract f x => exact Unsigned.word rfl rfl
  | extractWeekday x => exact Unsigned.word rfl rfl
  | datePart f x => exact Unsigned.word rfl rfl
  | datePartWeekday x => exact Unsigned.word rfl rfl
  | dateFirst => exact Unsigned.word rfl rfl
  | dateAdd f n x => exact Unsigned.word rfl rfl
  | interval f n => exact Unsigned.word rfl rfl
  | localTimestamp => exact Unsigned.word rfl rfl
  | paren x => exact Unsigned.word rfl rfl
  | atTimeZone x zone => cases h
  | operator op l r => cases h
  | concat l r => cases h
  | negate x => cases h
  | complement x => cases h
  | case test yes no => cases h

/-- The sign of a concatenation. -/
lemma between_concat :
    betweenPhrases? d (concatText d) = some [.symbol (concatSign d)] := by cases d <;> rfl

/-- The word of a match. -/
lemma lead_like : leadPhrases? d d.likeKeyword = some [.word d.likeKeyword] := by cases d <;> rfl

/-- A word is quiet. -/
lemma Quiet.word {w : String} {ps : List Phrase} : Quiet (.word w :: ps) := by
  intro p hp
  cases hp
  rfl

/-- The sort keys of a statement print their phrases, which end it. -/
lemma order_follows (order : List OrderTerm) :
    Follows d (if order.isEmpty then []
        else .word " ORDER BY " :: separated ", " (order.map OrderTerm.pieces))
      (if order.isEmpty then []
        else .word "ORDER" :: .word "BY" :: commaed (order.map OrderTerm.phrases)) := by
  cases order with
  | nil => exact Follows.nil
  | cons t ts =>
    have hkeys : Prints d (separated ", " ((t :: ts).map OrderTerm.pieces))
        (commaed ((t :: ts).map OrderTerm.phrases)) := Prints.separated fun t _ => t.prints
    exact hkeys.follows between_orderBy

/-- A row limit before other pieces. -/
lemma Prints.top {us : List Piece} {ps : List Phrase} (top : Option Nat) (h : Prints d us ps) :
    Prints d ((match top with
        | some n => [.word "TOP (", numeral n, .word ") "]
        | none => []) ++ us)
      ((match top with
        | some n => [.word "TOP", .group [.word (toString n)]]
        | none => []) ++ ps) := by
  cases top with
  | none => exact h
  | some n =>
    have hn : Prints d [numeral n] [.word (toString n)] := Prints.name (isPlainName_numeral n)
    exact hn.enclosed h opening_top closing_top

/-- The word for rows that are distinct before other pieces. -/
lemma Prints.distinct {us : List Piece} {ps : List Phrase} (distinct : Bool) (h : Prints d us ps) :
    Prints d ((if distinct then [Piece.word "DISTINCT "] else []) ++ us)
      ((if distinct then [Phrase.word "DISTINCT"] else []) ++ ps) := by
  cases distinct with
  | false => exact h
  | true => exact h.lead lead_distinct (.inl (by cases d <;> rfl))

variable {ok : List From → ColumnName → Prop}

mutual

/-- The text of a value is read as its phrases. -/
theorem Scalar.prints {chain : List From} :
    (x : Scalar) → x.Written ok chain → Prints d (x.pieces d) (x.phrases d)
  | .null, _ => Prints.name rfl
  | .number n, _ => Prints.name (isPlainName_numeral n)
  | .truth b, _ => Prints.name (by cases b <;> cases d <;> rfl)
  | .text _, h => Prints.literal h
  | .param _, h => Prints.param h
  | .column c, _ => c.prints
  | .call r args, h => (scalarList_prints args h).nameCall (name_routine r).1 (name_routine r).2
  | .cast x ty, h => by
    have hx := (Scalar.prints x h).between between_as ty.prints
    simpa [Scalar.pieces, Scalar.phrases] using hx.call call_cast
  | .extract f x, h => by
    have hf : Prints d [.word f.name] [.word f.name] := Prints.name f.name_isPlainName.1
    have hx := hf.between between_from (Scalar.prints x h)
    simpa [Scalar.pieces, Scalar.phrases] using hx.call call_extract
  | .extractWeekday x, h => (Scalar.prints x h).call call_weekday
  | .datePart f x, h => by
    have hf : Prints d [.word f.name] [.word f.name] := Prints.name f.name_isPlainName.1
    have hx := hf.between between_comma (Scalar.prints x h)
    simpa [Scalar.pieces, Scalar.phrases] using hx.call call_datePart
  | .datePartWeekday x, h => (Scalar.prints x h).call call_datePartWeekday
  | .dateFirst, _ => Prints.word (by cases d <;> rfl)
  | .dateAdd f n x, h => by
    have hf : Prints d [.word f.name] [.word f.name] := Prints.name f.name_isPlainName.1
    have hx := (Scalar.prints n h.1).between between_comma (Scalar.prints x h.2)
    have hall := hf.between between_comma hx
    simpa [Scalar.pieces, Scalar.phrases] using hall.call call_dateAdd
  | .interval f n, h => by
    have hf : Prints d [.word f.intervalField] [.word f.intervalField] :=
      Prints.name f.name_isPlainName.2
    have hn := hf.between between_arrow (Scalar.prints n h)
    simpa [Scalar.pieces, Scalar.phrases] using hn.call call_interval
  | .localTimestamp, _ => Prints.name rfl
  | .atTimeZone x zone, h => (Scalar.prints x h.1.2).between between_zone (Prints.literal h.2)
  | .operator op l r, h =>
    (Scalar.prints l h.2.1.2).spaced (leadPhrases?_symbol (.inl h.1)) (Scalar.prints r h.2.2.2)
  | .concat l r, h => (Scalar.prints l h.1.2).between between_concat (Scalar.prints r h.2.2)
  | .negate x, h =>
    (Scalar.prints x h.2).sign (Scalar.unsigned h.1) lead_minus (by cases d <;> rfl)
  | .complement x, h =>
    (Scalar.prints x h.2).sign (Scalar.unsigned h.1) lead_tilde (by cases d <;> rfl)
  | .case test yes no, h => by
    have hno := (Scalar.prints no h.2.2).behind end_end
    have hyes := (Scalar.prints yes h.2.1).between between_else hno
    have htest := (Cond.prints test h.1.2).between between_then hyes
    exact htest.lead lead_case (.inl (by cases d <;> rfl))
  | .paren x, h => (Scalar.prints x h).enclosed Prints.nil opening_paren closing_paren

/-- The text of several values is read as their phrases. -/
theorem scalarList_prints {chain : List From} :
    (xs : List Scalar) → scalarsWritten ok chain xs →
      Prints d (scalarListPieces d xs) (scalarListPhrases d xs)
  | [], _ => Prints.nil
  | [x], h => Scalar.prints x h.1
  | x :: y :: ys, h =>
    (Scalar.prints x h.1).between between_comma (scalarList_prints (y :: ys) h.2)

/-- The text of a condition is read as its phrases. -/
theorem Cond.prints {chain : List From} :
    (c : Cond) → c.Written ok chain → Prints d (c.pieces d) (c.phrases d)
  | .compare op l r, h =>
    (Scalar.prints l h.2.1.2).spaced (leadPhrases?_symbol (.inr h.1)) (Scalar.prints r h.2.2.2)
  | .and l r, h => (Cond.prints l h.1.2).between between_and (Cond.prints r h.2.2)
  | .or l r, h => (Cond.prints l h.1.2).between between_or (Cond.prints r h.2.2)
  | .not c, h => (Cond.prints c h.2).lead lead_not (.inl (by cases d <;> rfl))
  | .isNull x, h => (Scalar.prints x h.2).behind end_null
  | .isNotNull x, h => (Scalar.prints x h.2).behind end_notNull
  | .inList x members, h => by
    have hm := (scalarList_prints members h.2).enclosed Prints.nil opening_in closing_paren
    exact (Scalar.prints x h.1.2).append hm (Begins.word rfl) (Quiet.word)
  | .inSelect x s, h => by
    have hs := (Select.prints s h.2).enclosed Prints.nil opening_in closing_paren
    exact (Scalar.prints x h.1.2).append hs (Begins.word rfl) (Quiet.word)
  | .like x pattern escaped, h => by
    have hp := Scalar.prints pattern h.2.2
    have hescape : Prints d
        (pattern.pieces d ++
          if escaped then [Piece.word " ESCAPE ", Piece.literal "\\"] else [])
        (pattern.phrases d ++
          if escaped then [Phrase.word "ESCAPE", Phrase.literal "\\"] else []) := by
      cases escaped with
      | false => simpa using hp
      | true => exact hp.between between_escape (Prints.literal (by decide))
    exact (Scalar.prints x h.1.2).spaced (m := []) lead_like hescape
  | .exists s, h => (Select.prints s h).call call_exists
  | .paren c, h => (Cond.prints c h).enclosed Prints.nil opening_paren closing_paren

/-- The text of further conditions that a row must satisfy is read as their phrases. -/
theorem furtherFilters_follow {chain : List From} :
    (cs : List Cond) → filtersWritten ok chain cs →
      Follows d (furtherFilters d cs) (furtherPhrases d cs)
  | [], _ => Follows.nil
  | c :: cs, h =>
    ((Cond.prints c h.1.2).followed (furtherFilters_follow cs h.2)).follows between_further

/-- The text of the conditions that a row must satisfy is read as their phrases. -/
theorem filterPieces_follow {chain : List From} :
    (cs : List Cond) → filtersWritten ok chain cs →
      Follows d (filterPieces d cs) (filterPhrases d cs)
  | [], _ => Follows.nil
  | c :: cs, h =>
    ((Cond.prints c h.1.2).followed (furtherFilters_follow cs h.2)).follows between_where

/-- The text of what a statement reads is read as its phrases. -/
theorem Source.prints {chain : List From} :
    (s : Source) → s.Written ok chain → Prints d (s.pieces d) (s.phrases d)
  | .table name _, _ => Prints.identifier name
  | .derived s label, h =>
    (Select.prints s h).enclosed (Prints.identifier label) opening_paren closing_derived

/-- The text of a statement is read as its phrases. -/
theorem Select.prints {chain : List From} :
    (s : Select) → s.Written ok chain → Prints d (s.pieces d) (s.phrases d)
  | ⟨distinct, top, output, source, filters, order, limit⟩, h => by
    obtain ⟨-, hsource, hfilters, -⟩ := h
    have htail := (filterPieces_follow filters hfilters).append
      ((order_follows order).append limit.follows)
    have hfrom := output.prints.between between_from ((Source.prints source hsource).followed htail)
    have hall := ((hfrom.top top).distinct distinct).lead lead_select (.inl (by cases d <;> rfl))
    cases top <;> simpa [Select.pieces, Select.phrases] using hall

end

end TableQuery.Sql
