import Mathlib.Tactic.Lemma
import TableQuery.Declaration.Record
import TableQuery.Proofs.Emission.Gives

/-!
# What a field declares

What the attributes of a field say can be read off their tokens: the string in a `column` attribute
names the column, the word after `type =` is its storage class, and a `key` attribute makes it the
key.  If the attributes are read without a fault, then this is what the field declares
(`Field.column_ok`), since nothing is said twice.
-/

namespace TableQuery.Declaration

/-- The text of a string token. -/
def Token.text? : Token → Option String
  | .text s => some s
  | _ => none

/-- The storage class that is named first after `type =`. -/
def typeOf? : List Token → Option ColumnType
  | [] => none
  | .word "type" :: .mark '=' :: .word k :: _ => ofStorageWord? k
  | _ :: ts => typeOf? ts

/-- The tokens of the list of a `column` attribute. -/
def Attribute.columnTokens (a : Attribute) : List Token :=
  if a.path = "column" then
    match a.argument with
    | .list ts => ts
    | _ => []
  else []

/-- An attribute of another path says nothing about the column. -/
lemma Attribute.columnTokens_of_ne {a : Attribute} (h : a.path ≠ "column") : a.columnTokens = [] :=
  if_neg h

/-- A `column` attribute with a list has the tokens of the list. -/
lemma Attribute.columnTokens_list {a : Attribute} {ts : List Token} (h : a.path = "column")
    (harg : a.argument = .list ts) : a.columnTokens = ts := by
  rw [columnTokens, if_pos h, harg]

namespace Field

variable (f : Field)

/-- The name of a field as a member. -/
def member : String := bareName (f.name.getD "")

/-- The tokens of the `column` attributes of a field. -/
def columnTokens : List Token := f.attributes.flatMap Attribute.columnTokens

/-- The name of the column of a field: that of a `column` attribute, or the one made from the name
of the field. -/
def columnName : String :=
  (f.columnTokens.findSome? Token.text?).getD (defaultColumnName (f.name.getD ""))

/-- The storage class of the column of a field, where the type of the field has one too. -/
def columnType (storage : String → ColumnType) : ColumnType :=
  (typeOf? f.columnTokens).getD (storage (compact f.ty))

/-- Whether a field has a `key` attribute. -/
def isKey : Bool := f.attributes.any fun a => a.path == "key"

/-- The column that a field stands for, given the storage class of its type and whether that type
may be null. -/
def mapped (storage : String → ColumnType) (nullable : String → Bool) : Column where
  name := f.columnName
  member := f.member
  ty := f.columnType storage
  nullable := nullable (compact f.ty)
  primaryKey := f.isKey

end Field

/-- The items of a list say what its tokens say, after what was said before. -/
lemma ColumnOptions.readItems_ok {o o' : ColumnOptions} {ts : List Token}
    (h : o.readItems ts = .ok o') (hname : o.name ≠ some "") :
    o'.name = o.name.or (ts.findSome? Token.text?) ∧ o'.ty = o.ty.or (typeOf? ts) ∧
      o'.name ≠ some "" := by
  fun_induction ColumnOptions.readItems o ts with
  | case4 o s hnone hs =>
    cases h
    rw [Option.not_isSome_iff_eq_none] at hnone
    simp [hnone, hs, Token.text?, typeOf?]
  | case5 o s hnone hs rest ih =>
    obtain ⟨hname', hty, hne⟩ := ih h (by simpa using hs)
    rw [Option.not_isSome_iff_eq_none] at hnone
    refine ⟨?_, ?_, hne⟩
    · rw [hname', hnone]
      rfl
    · rw [hty]
      simp [typeOf?]
  | case10 o w hw hnone k t hk =>
    cases h
    cases Decidable.not_not.mp hw
    rw [Option.not_isSome_iff_eq_none] at hnone
    refine ⟨Option.or_none.symm, ?_, hname⟩
    rw [hnone]
    simp [typeOf?, hk]
  | case11 o w hw hnone k t hk rest ih =>
    obtain ⟨hname', hty, hne⟩ := ih h hname
    cases Decidable.not_not.mp hw
    rw [Option.not_isSome_iff_eq_none] at hnone
    refine ⟨?_, ?_, hne⟩
    · rw [hname']
      rfl
    · rw [hty, hnone]
      simp [typeOf?, hk]
  -- All other tokens are faults.
  | _ => cases h

namespace Field

variable {r : Reading} {a : Attribute} {as : List Attribute}

/-- An attribute that is read without a fault says whether the field is the key, and says what its
tokens say if it is the first about the column. -/
lemma Reading.add_ok (h : (r.add a).faults = []) :
    r.faults = [] ∧ (r.add a).key = (r.key || a.path == "key") ∧
      (a.columnTokens = [] ∧ (r.add a).column = r.column ∨
        r.column = none ∧ ∃ o, ColumnOptions.readItems {} a.columnTokens = .ok o ∧
          (r.add a).column = some o) := by
  -- Faults are only ever added, so a reading without faults has taken no branch that adds one.
  have hfail : ∀ f, (r.fail f).faults ≠ [] := fun f => List.append_ne_nil_of_right_ne_nil _ nofun
  unfold Reading.add at h ⊢
  by_cases hkey : a.path = "key"
  · have htokens : a.columnTokens = [] :=
      Attribute.columnTokens_of_ne (by rw [hkey]; decide)
    rw [if_pos hkey] at h ⊢
    by_cases hr : r.key = true
    · rw [if_pos hr] at h
      exact absurd h (hfail _)
    rw [if_neg hr] at h ⊢
    by_cases harg : a.argument = .nothing
    · rw [if_pos harg] at h ⊢
      exact ⟨h, by simp [hkey], .inl ⟨htokens, rfl⟩⟩
    · rw [if_neg harg] at h
      exact absurd h (hfail _)
  rw [if_neg hkey] at h ⊢
  by_cases hcolumn : a.path = "column"
  · rw [if_pos hcolumn] at h ⊢
    by_cases hr : r.column.isSome = true
    · rw [if_pos hr] at h
      exact absurd h (hfail _)
    rw [if_neg hr] at h ⊢
    cases hread : ColumnOptions.read a.argument with
    | error f =>
      rw [hread] at h
      exact absurd h (hfail f)
    | ok o =>
      rw [hread] at h
      obtain ⟨ts, harg⟩ : ∃ ts, a.argument = .list ts := by
        cases harg : a.argument with
        | list ts => exact ⟨ts, rfl⟩
        | _ => rw [harg] at hread; cases hread
      have hitems : ColumnOptions.readItems {} a.columnTokens = .ok o := by
        rw [Attribute.columnTokens_list hcolumn harg]
        rw [harg] at hread
        exact hread
      exact ⟨h, by simp [hkey], .inr ⟨Option.not_isSome_iff_eq_none.mp hr, o, hitems, rfl⟩⟩
  · rw [if_neg hcolumn] at h ⊢
    exact ⟨h, by simp [hkey], .inl ⟨Attribute.columnTokens_of_ne hcolumn, rfl⟩⟩

/-- Attributes without faults say what the key is, and at most once what the column is. -/
lemma Reading.foldl_add_ok (h : (as.foldl Reading.add r).faults = []) :
    r.faults = [] ∧
      (as.foldl Reading.add r).key = (r.key || as.any fun a => a.path == "key") ∧
      (as.flatMap Attribute.columnTokens = [] ∧ (as.foldl Reading.add r).column = r.column ∨
        r.column = none ∧
          ∃ o, ColumnOptions.readItems {} (as.flatMap Attribute.columnTokens) = .ok o ∧
            (as.foldl Reading.add r).column = some o) := by
  induction as generalizing r with
  | nil => exact ⟨h, (Bool.or_false _).symm, .inl ⟨rfl, rfl⟩⟩
  | cons a as ih =>
    obtain ⟨hadd, hkeys, hrest⟩ := ih h
    obtain ⟨hr, hkey, hfirst⟩ := Reading.add_ok hadd
    refine ⟨hr, ?_, ?_⟩
    · rw [List.foldl_cons, hkeys, hkey, List.any_cons, Bool.or_assoc]
    · rw [List.foldl_cons, List.flatMap_cons]
      rcases hfirst with ⟨htokens, hcolumn⟩ | ⟨hnone, o, hread, hcolumn⟩
      · rw [htokens, List.nil_append, ← hcolumn]
        exact hrest
      · -- The first attribute has spoken about the column, so the others have not.
        rcases hrest with ⟨htokens, hsame⟩ | ⟨hnone', -⟩
        · rw [htokens, List.append_nil, hsame]
          exact .inr ⟨hnone, o, hread, hcolumn⟩
        · rw [hcolumn] at hnone'
          cases hnone'

/-- What a field declares can be read off its name, its type and the tokens of its attributes.  A
name that an attribute gives is not empty. -/
theorem column_ok {f : Field} {c : DeclaredColumn} (h : f.column = .ok c) :
    f.name = some c.field ∧ c.name = f.columnName ∧ c.ty = typeOf? f.columnTokens ∧
      c.fieldType = compact f.ty ∧ c.primaryKey = f.isKey ∧
        f.columnTokens.findSome? Token.text? ≠ some "" := by
  unfold Field.column at h
  cases hname : f.name with
  | none =>
    rw [hname] at h
    cases h
  | some name =>
    rw [hname] at h
    simp only at h
    by_cases hfaults : (f.attributes.foldl Reading.add {}).faults.isEmpty = true
    · rw [if_pos hfaults] at h
      cases h
      obtain ⟨-, hkey, hcolumn⟩ := Reading.foldl_add_ok (List.isEmpty_iff.mp hfaults)
      have hcolumn : (((f.attributes.foldl Reading.add {}).column.bind (·.name)) =
          f.columnTokens.findSome? Token.text?) ∧
          ((f.attributes.foldl Reading.add {}).column.bind (·.ty)) = typeOf? f.columnTokens ∧
            f.columnTokens.findSome? Token.text? ≠ some "" := by
        rcases hcolumn with ⟨htokens, hnone⟩ | ⟨-, o, hread, hsome⟩
        · rw [hnone, columnTokens, htokens]
          exact ⟨rfl, rfl, nofun⟩
        · obtain ⟨hoName, hoType, hne⟩ := ColumnOptions.readItems_ok hread nofun
          rw [hsome]
          rw [hoName] at hne
          exact ⟨hoName, hoType, hne⟩
      obtain ⟨hcname, hcty, hne⟩ := hcolumn
      refine ⟨rfl, ?_, hcty, rfl, hkey, hne⟩
      rw [columnName, hname, ← hcname]
      rfl
    · rw [if_neg hfaults] at h
      cases h

end Field

end TableQuery.Declaration
