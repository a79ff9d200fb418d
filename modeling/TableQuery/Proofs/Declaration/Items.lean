import Mathlib.Data.List.Perm.Basic
import TableQuery.Proofs.Declaration.Fields

/-!
# The items of a column attribute

What may stand in the parentheses of a `column` attribute: at least one item, with commas between
items and none behind the last.  An item is the name of the column or its storage class, and there
is at most one of each (`ColumnOptions.AreItems`).  Reading accepts just the tokens of such items,
and what it gives is what they say, in whatever order (`ColumnOptions.read_accepts_items`).

The reading goes on behind an item with what the items so far have said, so the lemmas are about
items that come after others: `ColumnOptions.Gains` is what they add, and
`ColumnOptions.readItems_eq_ok` that they are read so.  An item that says what was said before is
refused, so no more tokens are ever looked at than those of two items, two commas and one more
(`ColumnOptions.readItems_take`).
-/

namespace TableQuery.Declaration

/-- The word for a storage class stands for it, and no other word does. -/
lemma ofStorageWord?_eq_some {w : String} {t : ColumnType} :
    ofStorageWord? w = some t ↔ w = storageWord t := by
  constructor
  case mp =>
    intro h
    exact (beq_iff_eq.mp (List.find?_some (p := fun t => storageWord t == w) h)).symm
  case mpr =>
    rintro rfl
    cases t <;> rfl

namespace ColumnOptions

/-- An item of a `column` attribute. -/
inductive Item where
  /-- The name of the column. -/
  | name (s : String)
  /-- The storage class of the column. -/
  | type (t : ColumnType)
  deriving DecidableEq

namespace Item

/-- The tokens of an item. -/
def tokens : Item → List Token
  | name s => [.text s]
  | type t => [.word "type", .mark '=', .word (storageWord t)]

/-- The name that an item gives. -/
def name? : Item → Option String
  | name s => some s
  | type _ => none

/-- The storage class that an item gives. -/
def type? : Item → Option ColumnType
  | name _ => none
  | type t => some t

end Item

/-- The names that items give. -/
def names (items : List Item) : List String := items.filterMap Item.name?

/-- The storage classes that items give. -/
def types (items : List Item) : List ColumnType := items.filterMap Item.type?

/-- The tokens of items with commas between them. -/
def listTokens : List Item → List Token
  | [] => []
  | [i] => i.tokens
  | i :: is => i.tokens ++ .mark ',' :: listTokens is

/-- Items after the first come after a comma. -/
lemma listTokens_cons (i : Item) {items : List Item} (h : items ≠ []) :
    listTokens (i :: items) = i.tokens ++ .mark ',' :: listTokens items := by
  cases items with
  | nil => exact absurd rfl h
  | cons => rfl

/-- Whether items may stand together in a `column` attribute. -/
structure AreItems (items : List Item) : Prop where
  nonempty : items ≠ []
  named : "" ∉ names items
  oneName : (names items).length ≤ 1
  oneType : (types items).length ≤ 1

variable {o o' : ColumnOptions} {i : Item} {items : List Item} {ts : List Token}

/-- Whether an item may come after what was said before. -/
def Lacks (o : ColumnOptions) : Item → Prop
  | .name s => o.name = none ∧ s ≠ ""
  | .type _ => o.ty = none

/-- What was said before and what an item says. -/
def adding (o : ColumnOptions) : Item → ColumnOptions
  | .name s => { o with name := some s }
  | .type t => { o with ty := some t }

/-- Whether items may come after what was said before, and something is said then. -/
structure Gains (o : ColumnOptions) (items : List Item) (o' : ColumnOptions) : Prop where
  named : "" ∉ names items
  name : o'.name.toList = o.name.toList ++ names items
  type : o'.ty.toList = o.ty.toList ++ types items

/-- Optional values are equal if the lists of them are. -/
lemma eq_of_toList {α : Type} {x y : Option α} (h : x.toList = y.toList) : x = y := by
  rw [← Option.head?_toList (o := x), h, Option.head?_toList]

/-- Without items nothing more is said. -/
lemma gains_nil : o.Gains [] o' ↔ o' = o := by
  constructor
  case mp =>
    rintro ⟨-, hname, htype⟩
    obtain ⟨name, ty⟩ := o
    obtain ⟨name', ty'⟩ := o'
    rw [names, List.filterMap_nil, List.append_nil] at hname
    rw [types, List.filterMap_nil, List.append_nil] at htype
    cases eq_of_toList hname
    cases eq_of_toList htype
    rfl
  case mpr =>
    rintro rfl
    exact ⟨List.not_mem_nil, (List.append_nil _).symm, (List.append_nil _).symm⟩

/-- There is nothing before the first element of a list of at most one. -/
lemma toList_append_cons {α : Type} {x y : Option α} {a : α} {as : List α}
    (h : x.toList = y.toList ++ a :: as) : y = none := by
  cases y with
  | none => rfl
  | some b => cases x <;> simp at h

/-- The first of some items comes after what was said before, and the others come after both. -/
lemma gains_cons : o.Gains (i :: items) o' ↔ o.Lacks i ∧ (o.adding i).Gains items o' := by
  cases i with
  | name s =>
    constructor
    case mp =>
      rintro ⟨hnamed, hname, htype⟩
      have hnone : o.name = none := toList_append_cons hname
      rw [hnone] at hname
      exact ⟨⟨hnone, (List.ne_of_not_mem_cons hnamed).symm⟩,
        List.not_mem_of_not_mem_cons hnamed, hname, htype⟩
    case mpr =>
      rintro ⟨⟨hnone, hs⟩, hnamed, hname, htype⟩
      refine ⟨List.not_mem_cons_of_ne_of_not_mem hs.symm hnamed, ?_, htype⟩
      rw [hnone]
      exact hname
  | type t =>
    constructor
    case mp =>
      rintro ⟨hnamed, hname, htype⟩
      have hnone : o.ty = none := toList_append_cons htype
      rw [hnone] at htype
      exact ⟨hnone, hnamed, hname, htype⟩
    case mpr =>
      rintro ⟨hnone, hnamed, hname, htype⟩
      refine ⟨hnamed, hname, ?_⟩
      rw [hnone]
      exact htype

section Items

/-- The last item. -/
lemma readItems_last (h : o.Lacks i) : o.readItems i.tokens = .ok (o.adding i) := by
  cases i with
  | name s =>
    obtain ⟨hnone, hs⟩ := h
    simp [Item.tokens, readItems, hnone, hs, adding]
  | type t =>
    have hnone : o.ty = none := h
    have hword : ofStorageWord? (storageWord t) = some t := ofStorageWord?_eq_some.mpr rfl
    simp [Item.tokens, readItems, hnone, hword, adding]

/-- An item before others. -/
lemma readItems_cons (h : o.Lacks i) :
    o.readItems (i.tokens ++ .mark ',' :: ts) = (o.adding i).readItems ts := by
  cases i with
  | name s =>
    obtain ⟨hnone, hs⟩ := h
    simp [Item.tokens, readItems, hnone, hs, adding]
  | type t =>
    have hnone : o.ty = none := h
    have hword : ofStorageWord? (storageWord t) = some t := ofStorageWord?_eq_some.mpr rfl
    simp [Item.tokens, readItems, hnone, hword, adding]

/-- An item with something else behind it than a comma. -/
lemma readItems_missingComma {u : Token} (h : o.Lacks i) (hu : u ≠ .mark ',') :
    o.readItems (i.tokens ++ u :: ts) = .error .missingComma := by
  cases i with
  | name s =>
    obtain ⟨hnone, hs⟩ := h
    simp [Item.tokens, readItems, hnone, hs, hu]
  | type t =>
    have hnone : o.ty = none := h
    have hword : ofStorageWord? (storageWord t) = some t := ofStorageWord?_eq_some.mpr rfl
    simp [Item.tokens, readItems, hnone, hword, hu]

end Items

section Faults

/-- Nothing, where an item is expected. -/
lemma readItems_nil : o.readItems [] = .error (.columnItem true) := by
  rw [readItems]

/-- A token that no item begins with. -/
lemma readItems_otherToken {u : Token} (htext : ∀ s, u ≠ .text s) (hword : ∀ w, u ≠ .word w) :
    o.readItems (u :: ts) = .error (.columnItem false) := by
  cases u with
  | text s => exact absurd rfl (htext s)
  | word w => exact absurd rfl (hword w)
  | _ => simp [readItems]

/-- A name behind another. -/
lemma readItems_repeatedName {s : String} (hname : o.name ≠ none) :
    o.readItems (.text s :: ts) = .error .repeatedColumnName := by
  rw [readItems.eq_def]
  exact if_pos (Option.isSome_iff_ne_none.mpr hname)

/-- An empty name. -/
lemma readItems_emptyName (hname : o.name = none) :
    o.readItems (.text "" :: ts) = .error .emptyColumnName := by
  simp [readItems.eq_def, hname]

/-- A word that no item begins with. -/
lemma readItems_otherWord {w : String} (hw : w ≠ "type") :
    o.readItems (.word w :: ts) = .error (.columnItem false) := by
  rw [readItems.eq_def]
  exact if_pos hw

/-- A storage class behind another. -/
lemma readItems_repeatedType (hty : o.ty ≠ none) :
    o.readItems (.word "type" :: ts) = .error .repeatedColumnType := by
  rw [readItems.eq_def]
  exact if_pos (Option.isSome_iff_ne_none.mpr hty)

/-- A storage class without the mark that announces it. -/
lemma readItems_missingEquals (hty : o.ty = none) (hequals : ts.head? ≠ some (.mark '=')) :
    o.readItems (.word "type" :: ts) = .error .missingEquals := by
  cases ts with
  | nil => simp [readItems.eq_def, hty]
  | cons u ts =>
    have hu : u ≠ .mark '=' := by simpa using hequals
    simp [readItems.eq_def, hty, hu]

/-- Nothing, where a storage class is announced. -/
lemma readItems_noType (hty : o.ty = none) :
    o.readItems [.word "type", .mark '='] = .error (.columnType true) := by
  simp [readItems, hty]

/-- Something else than a storage class. -/
lemma readItems_otherType {u : Token} (hty : o.ty = none)
    (hu : ∀ k, u = .word k → ofStorageWord? k = none) :
    o.readItems (.word "type" :: .mark '=' :: u :: ts) = .error (.columnType false) := by
  cases u with
  | word k => simp [readItems.eq_def, hty, hu k rfl]
  | _ => simp [readItems.eq_def, hty]

end Faults

/-- How many tokens are looked at after what was said before: those of the items that may still
come, each with a comma, and one more. -/
def reach (o : ColumnOptions) : Nat :=
  1 + (if o.name.isSome then 0 else 2) + (if o.ty.isSome then 0 else 4)

variable {n : Nat}

/-- The tokens of an item and a comma are looked at before what is looked at behind them. -/
lemma reach_of_lacks (h : o.Lacks i) : o.reach = i.tokens.length + 1 + (o.adding i).reach := by
  obtain ⟨name, ty⟩ := o
  cases i with
  | name s =>
    obtain ⟨rfl, -⟩ := h
    cases ty <;> rfl
  | type t =>
    obtain rfl : ty = none := h
    cases name <;> rfl

/-- Behind an item, as many tokens are looked at as the comma and what comes then. -/
lemma take_item (h : o.Lacks i) (hn : o.reach ≤ n) (ts : List Token) :
    ∃ m, (o.adding i).reach ≤ m ∧ (i.tokens ++ ts).take n = i.tokens ++ ts.take (m + 1) := by
  rw [reach_of_lacks h, Nat.add_assoc] at hn
  obtain ⟨k, rfl⟩ := Nat.exists_eq_add_of_le hn
  refine ⟨(o.adding i).reach + k, Nat.le_add_right _ _, ?_⟩
  have hlength : i.tokens.length + (1 + (o.adding i).reach) + k =
      i.tokens.length + ((o.adding i).reach + k + 1) := by omega
  rw [hlength, List.take_length_add_append]

/-- The tokens are found at fault by those that are looked at. -/
def FindsFault (o : ColumnOptions) (ts : List Token) : Prop :=
  ∃ f, ∀ n, o.reach ≤ n → o.readItems (ts.take n) = .error f

/-- A fault at the first token. -/
lemma findsFault_first {u : Token} {f : Fault} (h : ∀ ts, o.readItems (u :: ts) = .error f)
    (ts : List Token) : o.FindsFault (u :: ts) := by
  refine ⟨f, fun n hn => ?_⟩
  have hpos : 1 ≤ n := Nat.le_trans (by rw [reach]; omega) hn
  obtain ⟨m, rfl⟩ := Nat.exists_eq_add_of_le' hpos
  exact h (ts.take m)

/-- A fault at the first three tokens, where a storage class may come. -/
lemma findsFault_type {f : Fault} (hty : o.ty = none)
    (h : ∀ m, 2 ≤ m → o.readItems (.word "type" :: ts.take m) = .error f) :
    o.FindsFault (.word "type" :: ts) := by
  refine ⟨f, fun n hn => ?_⟩
  have hfive : 5 ≤ n := by
    refine Nat.le_trans ?_ hn
    simp only [reach, hty, Option.isSome_none, Bool.false_eq_true, if_false]
    omega
  obtain ⟨m, rfl⟩ := Nat.exists_eq_add_of_le' (Nat.le_trans (by decide : 1 ≤ 5) hfive)
  exact h m (by omega)

/-- What follows the word for a storage class is one, or is found at fault. -/
lemma type_or_fault (hty : o.ty = none) (ts : List Token) :
    (∃ t rest, ts = .mark '=' :: .word (storageWord t) :: rest) ∨
      o.FindsFault (.word "type" :: ts) := by
  by_cases hequals : ts.head? = some (.mark '=')
  case neg =>
    refine .inr (findsFault_type hty fun m hm => readItems_missingEquals hty ?_)
    rwa [List.head?_take, if_neg (by omega)]
  obtain ⟨rest, rfl⟩ := List.head?_eq_some_iff.mp hequals
  cases rest with
  | nil =>
    refine .inr (findsFault_type (f := .columnType true) hty fun m hm => ?_)
    rw [List.take_of_length_le (Nat.le_trans (by decide) hm)]
    exact readItems_noType hty
  | cons u rest =>
    by_cases hu : ∃ t, u = .word (storageWord t)
    case pos =>
      obtain ⟨t, rfl⟩ := hu
      exact .inl ⟨t, rest, rfl⟩
    case neg =>
      refine .inr (findsFault_type (f := .columnType false) hty fun m hm => ?_)
      obtain ⟨m, rfl⟩ := Nat.exists_eq_add_of_le' hm
      refine readItems_otherType hty fun k hk => ?_
      cases hclass : ofStorageWord? k with
      | none => rfl
      | some t =>
        cases ofStorageWord?_eq_some.mp hclass
        exact absurd ⟨t, hk⟩ hu

/-- Tokens begin with an item that may come after what was said before, or are found at fault. -/
lemma item_or_fault (o : ColumnOptions) (ts : List Token) :
    (∃ i rest, o.Lacks i ∧ ts = i.tokens ++ rest) ∨ o.FindsFault ts := by
  cases ts with
  | nil =>
    refine .inr ⟨.columnItem true, fun n _ => ?_⟩
    rw [List.take_nil]
    exact readItems_nil
  | cons u ts =>
    cases u with
    | text s =>
      by_cases hname : o.name = none
      case neg => exact .inr (findsFault_first (fun _ => readItems_repeatedName hname) ts)
      by_cases hs : s = ""
      case pos =>
        subst hs
        exact .inr (findsFault_first (fun _ => readItems_emptyName hname) ts)
      case neg => exact .inl ⟨.name s, ts, ⟨hname, hs⟩, rfl⟩
    | word w =>
      by_cases hw : w = "type"
      case neg => exact .inr (findsFault_first (fun _ => readItems_otherWord hw) ts)
      subst hw
      by_cases hty : o.ty = none
      case neg => exact .inr (findsFault_first (fun _ => readItems_repeatedType hty) ts)
      obtain ⟨t, rest, rfl⟩ | hfault := type_or_fault hty ts
      · exact .inl ⟨.type t, rest, hty, rfl⟩
      · exact .inr hfault
    | _ =>
      refine .inr (findsFault_first (fun _ => readItems_otherToken ?_ ?_) ts)
      · intro s h
        cases h
      · intro w h
        cases h

/-- Tokens are those of a last item, or of an item and a comma with more behind it, or they are
found at fault. -/
lemma readItems_cases (o : ColumnOptions) (ts : List Token) :
    (∃ i, o.Lacks i ∧ ts = i.tokens) ∨
      (∃ i rest, o.Lacks i ∧ ts = i.tokens ++ .mark ',' :: rest) ∨ o.FindsFault ts := by
  obtain ⟨i, rest, h, rfl⟩ | hfault := o.item_or_fault ts
  case inr => exact .inr (.inr hfault)
  cases rest with
  | nil => exact .inl ⟨i, h, List.append_nil _⟩
  | cons u rest =>
    by_cases hu : u = .mark ','
    case pos =>
      subst hu
      exact .inr (.inl ⟨i, rest, h, rfl⟩)
    case neg =>
      refine .inr (.inr ⟨.missingComma, fun n hn => ?_⟩)
      obtain ⟨m, -, htake⟩ := take_item h hn (u :: rest)
      rw [htake]
      exact readItems_missingComma h hu

/-- Tokens that are found at fault are not read. -/
lemma FindsFault.not_ok (h : o.FindsFault ts) : o.readItems ts ≠ .ok o' := by
  obtain ⟨f, hf⟩ := h
  intro hread
  have hall := hf (o.reach + ts.length) (Nat.le_add_right _ _)
  rw [List.take_of_length_le (Nat.le_add_left _ _), hread] at hall
  cases hall

/-- Items are read after others if their tokens are those of a list of items, and what is said then
is what was said before and what the items say. -/
theorem readItems_eq_ok :
    o.readItems ts = .ok o' ↔ ∃ items, items ≠ [] ∧ ts = listTokens items ∧ o.Gains items o' := by
  constructor
  case mp =>
    intro h
    -- On the number of tokens, of which an item takes at least one.
    induction hlength : ts.length using Nat.strongRecOn generalizing o ts with
    | _ k ih =>
      obtain ⟨i, hlacks, rfl⟩ | ⟨i, rest, hlacks, rfl⟩ | hfault := o.readItems_cases ts
      case inl =>
        rw [readItems_last hlacks] at h
        cases h
        exact ⟨[i], List.cons_ne_nil _ _, rfl, gains_cons.mpr ⟨hlacks, gains_nil.mpr rfl⟩⟩
      case inr.inl =>
        rw [readItems_cons hlacks] at h
        have hshorter : rest.length < k := by
          rw [← hlength, List.length_append, List.length_cons]
          omega
        obtain ⟨items, hne, rfl, hgains⟩ := ih rest.length hshorter h rfl
        exact ⟨i :: items, List.cons_ne_nil _ _, (listTokens_cons i hne).symm,
          gains_cons.mpr ⟨hlacks, hgains⟩⟩
      case inr.inr => exact absurd h hfault.not_ok
  case mpr =>
    rintro ⟨items, hne, rfl, hgains⟩
    induction items generalizing o with
    | nil => exact absurd rfl hne
    | cons i items ih =>
      obtain ⟨hlacks, hgains⟩ := gains_cons.mp hgains
      by_cases hitems : items = []
      · subst hitems
        cases gains_nil.mp hgains
        exact readItems_last hlacks
      · rw [listTokens_cons i hitems, readItems_cons hlacks]
        exact ih hitems hgains

/-- What is read depends on no more tokens than are looked at. -/
lemma readItems_take (h : o.reach ≤ n) : o.readItems ts = o.readItems (ts.take n) := by
  induction hlength : ts.length using Nat.strongRecOn generalizing o n ts with
  | _ k ih =>
    obtain ⟨i, hlacks, rfl⟩ | ⟨i, rest, hlacks, rfl⟩ | ⟨f, hf⟩ := o.readItems_cases ts
    case inl =>
      rw [reach_of_lacks hlacks] at h
      rw [List.take_of_length_le (by omega)]
    case inr.inl =>
      -- Behind the comma, what is looked at is less by the tokens of the item.
      obtain ⟨m, hm, htake⟩ := take_item hlacks h (.mark ',' :: rest)
      have hshorter : rest.length < k := by
        rw [← hlength, List.length_append, List.length_cons]
        omega
      rw [htake, List.take_succ_cons, readItems_cons hlacks, readItems_cons hlacks]
      exact ih rest.length hshorter hm rfl
    case inr.inr =>
      have hall := hf (o.reach + ts.length) (Nat.le_add_right _ _)
      rw [List.take_of_length_le (Nat.le_add_left _ _)] at hall
      rw [hall, hf n h]

/-- The items of a list that is read are such as may stand together. -/
lemma Gains.areItems (h : Gains {} items o) (hne : items ≠ []) : AreItems items where
  nonempty := hne
  named := h.named
  oneName := by
    rw [← List.nil_append (names items), ← Option.toList_none, ← h.name]
    exact Option.length_toList_le
  oneType := by
    rw [← List.nil_append (types items), ← Option.toList_none, ← h.type]
    exact Option.length_toList_le

/-- The names of items are those of the items that are names. -/
lemma mem_names {s : String} : s ∈ names items ↔ .name s ∈ items := by
  rw [names, List.mem_filterMap]
  constructor
  case mp =>
    rintro ⟨_ | _, hi, hs⟩
    · cases hs
      exact hi
    · cases hs
  case mpr => exact fun h => ⟨_, h, rfl⟩

/-- The storage classes of items are those of the items that are such. -/
lemma mem_types {t : ColumnType} : t ∈ types items ↔ .type t ∈ items := by
  rw [types, List.mem_filterMap]
  constructor
  case mp =>
    rintro ⟨_ | _, hi, ht⟩
    · cases ht
    · cases ht
      exact hi
  case mpr => exact fun h => ⟨_, h, rfl⟩

/-- At most one element is the same as an optional one. -/
lemma toList_eq_iff {α : Type} {x : Option α} {as : List α} (h : as.length ≤ 1) :
    x.toList = as ↔ ∀ a, x = some a ↔ a ∈ as := by
  match as, h with
  | [], _ => simp [Option.eq_none_iff_forall_ne_some]
  | [a], _ =>
    cases x with
    | none => simp
    | some b =>
      simp only [Option.toList_some, List.cons.injEq, and_true, Option.some.injEq,
        List.mem_singleton]
      exact ⟨fun hab c => by rw [hab, eq_comm], fun hab => (hab b).mp rfl⟩

/-- What items say that may stand together. -/
lemma AreItems.gains_iff (h : AreItems items) :
    Gains {} items o ↔
      (∀ s, o.name = some s ↔ .name s ∈ items) ∧ ∀ t, o.ty = some t ↔ .type t ∈ items := by
  simp only [← mem_names, ← mem_types, ← toList_eq_iff h.oneName, ← toList_eq_iff h.oneType]
  exact ⟨fun hgains => ⟨hgains.name, hgains.type⟩, fun ⟨hname, htype⟩ => ⟨h.named, hname, htype⟩⟩

/-- Items that may stand together say something. -/
lemma AreItems.exists_gains (h : AreItems items) : ∃ o, Gains {} items o := by
  have hhead {α : Type} {as : List α} (hone : as.length ≤ 1) : as.head?.toList = as := by
    match as, hone with
    | [], _ => rfl
    | [_], _ => rfl
  exact ⟨⟨(names items).head?, (types items).head?⟩, h.named, hhead h.oneName, hhead h.oneType⟩

/-- Items that may stand together may do so in every order. -/
lemma AreItems.perm {items' : List Item} (h : AreItems items) (hperm : items.Perm items') :
    AreItems items' := by
  have hnames : (names items).Perm (names items') := hperm.filterMap _
  have htypes : (types items).Perm (types items') := hperm.filterMap _
  constructor
  case nonempty =>
    rintro rfl
    exact h.nonempty hperm.eq_nil
  case named => exact fun hmem => h.named (hnames.mem_iff.mpr hmem)
  case oneName => exact hnames.length_eq ▸ h.oneName
  case oneType => exact htypes.length_eq ▸ h.oneType

/-- Items that may stand together are read as what they say. -/
lemma AreItems.read_eq_ok (h : AreItems items) :
    read (.list (listTokens items)) = .ok o ↔ Gains {} items o := by
  constructor
  case mp =>
    intro hread
    obtain ⟨o', hgains⟩ := h.exists_gains
    have hread' : read (.list (listTokens items)) = .ok o' :=
      readItems_eq_ok.mpr ⟨items, h.nonempty, rfl, hgains⟩
    cases hread.symm.trans hread'
    exact hgains
  case mpr => exact fun hgains => readItems_eq_ok.mpr ⟨items, h.nonempty, rfl, hgains⟩

/-- A list of tokens is read if and only if it is made of items that may stand together, each a name
or `type = ` with one of the eight words; the options have just the name and the type that such
items give, in whatever order they stand.  No more than seven tokens are ever looked at. -/
theorem read_accepts_items :
    (∀ ts, (∃ o, read (.list ts) = .ok o) ↔ ∃ items, AreItems items ∧ ts = listTokens items) ∧
    (∀ items o, AreItems items → (read (.list (listTokens items)) = .ok o ↔
      (∀ s, o.name = some s ↔ .name s ∈ items) ∧ ∀ t, o.ty = some t ↔ .type t ∈ items)) ∧
    (∀ items items', AreItems items → items.Perm items' →
      read (.list (listTokens items)) = read (.list (listTokens items'))) ∧
    (∀ ts, read (.list ts) = read (.list (ts.take 7))) ∧
    ColumnType.all.map storageWord =
      ["int", "float", "text", "boolean", "datetime", "guid", "blob", "enum"] := by
  refine ⟨fun ts => ⟨?accepted, ?accepts⟩, ?said, ?order,
    fun ts => readItems_take (Nat.le_refl 7), rfl⟩
  case accepted =>
    rintro ⟨o, h⟩
    obtain ⟨items, hne, rfl, hgains⟩ := readItems_eq_ok.mp h
    exact ⟨items, hgains.areItems hne, rfl⟩
  case accepts =>
    rintro ⟨items, h, rfl⟩
    obtain ⟨o, hgains⟩ := h.exists_gains
    exact ⟨o, h.read_eq_ok.mpr hgains⟩
  case said =>
    intro items o h
    rw [h.read_eq_ok, h.gains_iff]
  case order =>
    intro items items' h hperm
    obtain ⟨o, hgains⟩ := h.exists_gains
    have hgains' : Gains {} items' o := by
      rw [(h.perm hperm).gains_iff]
      simp only [← hperm.mem_iff]
      exact h.gains_iff.mp hgains
    rw [h.read_eq_ok.mpr hgains, (h.perm hperm).read_eq_ok.mpr hgains']

/-- A name and a type, in either order, are what both orders say. -/
theorem read_accepts_items_name_type :
    AreItems [.name "email", .type .text] ∧
      [Item.name "email", .type .text].Perm [.type .text, .name "email"] ∧
      read (.list [.text "email", .mark ',', .word "type", .mark '=', .word "text"]) =
        .ok ⟨some "email", some .text⟩ ∧
      read (.list [.word "type", .mark '=', .word "text", .mark ',', .text "email"]) =
        .ok ⟨some "email", some .text⟩ := by
  have hitems : AreItems [.name "email", .type .text] :=
    ⟨List.cons_ne_nil _ _, by decide, by decide, by decide⟩
  have hperm : [Item.name "email", .type .text].Perm [.type .text, .name "email"] :=
    List.Perm.swap _ _ _
  obtain ⟨-, hsaid, horder, -⟩ := read_accepts_items
  have hread : read (.list (listTokens [.name "email", .type .text])) =
      .ok ⟨some "email", some .text⟩ := by
    refine (hsaid _ _ hitems).mpr ⟨fun s => ?_, fun t => ?_⟩
    · simp [eq_comm]
    · simp [eq_comm]
  exact ⟨hitems, hperm, hread, (horder _ _ hitems hperm).symm.trans hread⟩

end ColumnOptions

end TableQuery.Declaration
