import CodeSearch.Proofs.Toml.Grammar
import Mathlib.Data.List.Nodup

/-!
# Documents of tables

A document may fill in tables one after the other, each below its header.  If no table is given twice
and no key twice in a table, the document describes just these tables with just these members, in their
order (`ofStatements?_statementsOf`).
-/

namespace CodeSearch.Toml

/-- The statements that fill in some tables, each a key with the members of the table. -/
def statementsOf (tables : List (String × List (String × Toml))) : List Statement :=
  tables.flatMap fun table =>
    .header [table.1] :: table.2.map fun member => .assign [member.1] member.2

/-- Tables can be written if the values of their members can. -/
theorem exists_writesDocument_statementsOf {tables : List (String × List (String × Toml))}
    (h : ∀ table ∈ tables, ∀ member ∈ table.2, ∃ written, WritesValue member.2 written) :
    ∃ text, WritesDocument (statementsOf tables) text := by
  refine exists_writesDocument fun statement hstatement => ?_
  obtain ⟨table, htable, hmem⟩ := List.mem_flatMap.1 hstatement
  rcases List.mem_cons.1 hmem with rfl | hmem
  · obtain ⟨key, hkey⟩ := exists_writesString table.1
    exact ⟨_, .header areBlanks_nil (.basic hkey) areBlanks_nil⟩
  · obtain ⟨member, hmember, rfl⟩ := List.mem_map.1 hmem
    obtain ⟨key, hkey⟩ := exists_writesString member.1
    obtain ⟨written, hwritten⟩ := h table htable member hmember
    exact ⟨_, .assign (.basic hkey) areBlanks_nil areBlanks_nil hwritten⟩

/-- Members whose values are given, as they stand while a document is put together. -/
def leaves (members : List (String × Toml)) : Members :=
  members.map fun member => (member.1, .leaf member.2)

section Items

variable {key : String} {item other : Item} {members : Members}

theorem item?_eq_none (h : key ∉ members.map Prod.fst) : item? members key = none := by
  unfold item?
  rw [List.find?_eq_none.2, Option.map_none]
  intro entry hentry heq
  exact h (List.mem_map.2 ⟨entry, hentry, by simpa using heq⟩)

/-- What is new is put at the end. -/
theorem setItem_new (h : key ∉ members.map Prod.fst) :
    setItem key item members = members ++ [(key, item)] := by
  induction members with
  | nil => rfl
  | cons entry rest ih =>
    rw [List.map_cons, List.mem_cons, not_or] at h
    rw [setItem, if_neg (Ne.symm h.1), ih h.2, List.cons_append]

theorem item?_last (h : key ∉ members.map Prod.fst) :
    item? (members ++ [(key, item)]) key = some item := by
  have hbefore : members.find? (·.1 == key) = none := by
    simpa [item?] using item?_eq_none h
  rw [item?, List.find?_append, hbefore]
  simp

theorem setItem_last (h : key ∉ members.map Prod.fst) :
    setItem key item (members ++ [(key, other)]) = members ++ [(key, item)] := by
  induction members with
  | nil => simp [setItem]
  | cons entry rest ih =>
    rw [List.map_cons, List.mem_cons, not_or] at h
    rw [List.cons_append, setItem, if_neg (Ne.symm h.1), ih h.2, List.cons_append]

/-- Of keys that occur once, the next one is new, and those behind it are still so after it. -/
theorem nodup_next {keys : List String} (h : (members.map Prod.fst ++ key :: keys).Nodup)
    (item : Item) :
    key ∉ members.map Prod.fst ∧ ((members ++ [(key, item)]).map Prod.fst ++ keys).Nodup := by
  have hshape : (members ++ [(key, item)]).map Prod.fst ++ keys =
      members.map Prod.fst ++ key :: keys := by simp
  rw [hshape]
  exact ⟨fun hmem => (List.nodup_append.1 h).2.2 key hmem key List.mem_cons_self rfl, h⟩

end Items

section Build

variable {name key : String} {before inner : Members} {members : List (String × Toml)}

/-- A header begins a table that is not there yet. -/
theorem define_new (h : name ∉ before.map Prod.fst) :
    define [name] before = some (before ++ [(name, .table .defined [])]) := by
  simp [define, atHeader, item?_eq_none h, setItem_new h]

/-- A value is added to the table that was begun last. -/
theorem atHeader_assign (hname : name ∉ before.map Prod.fst) (hkey : key ∉ inner.map Prod.fst)
    (value : Toml) :
    atHeader (assign value [key]) [name] (before ++ [(name, .table .defined inner)]) =
      some (before ++ [(name, .table .defined (inner ++ [(key, .leaf value)]))]) := by
  simp [atHeader, assign, item?_last hname, setItem_last hname, item?_eq_none hkey, setItem_new hkey]

/-- Values for new keys are added one after the other. -/
theorem build_assigns (hname : name ∉ before.map Prod.fst)
    (hkeys : (inner.map Prod.fst ++ members.map Prod.fst).Nodup) (rest : List Statement) :
    build [name] (before ++ [(name, .table .defined inner)])
        (members.map (fun member => .assign [member.1] member.2) ++ rest) =
      build [name] (before ++ [(name, .table .defined (inner ++ leaves members))]) rest := by
  induction members generalizing inner with
  | nil => simp [leaves]
  | cons member members ih =>
    obtain ⟨hkey, hnext⟩ := nodup_next hkeys (.leaf member.2)
    rw [List.map_cons, List.cons_append, build, atHeader_assign hname hkey]
    simp only [Option.bind_eq_bind, Option.bind_some]
    rw [ih hnext, List.append_assoc]
    rfl

/-- Tables are filled in one after the other. -/
theorem build_statementsOf {tables : List (String × List (String × Toml))}
    (hnames : (before.map Prod.fst ++ tables.map Prod.fst).Nodup)
    (hkeys : ∀ table ∈ tables, (table.2.map Prod.fst).Nodup) (current : Key) :
    build current before (statementsOf tables) =
      some (before ++ tables.map fun table => (table.1, .table .defined (leaves table.2))) := by
  induction tables generalizing before current with
  | nil => simp [statementsOf, build]
  | cons table tables ih =>
    obtain ⟨htable, htables⟩ := List.forall_mem_cons.1 hkeys
    obtain ⟨hname, hnext⟩ := nodup_next hnames (.table .defined (leaves table.2))
    have hbuild := ih hnext htables [table.1]
    unfold statementsOf at hbuild ⊢
    rw [List.flatMap_cons, List.cons_append, build, define_new hname]
    simp only [Option.bind_eq_bind, Option.bind_some]
    rw [build_assigns hname (by simpa using htable), List.nil_append, hbuild, List.append_assoc]
    rfl

end Build

theorem values_leaves (members : List (String × Toml)) :
    Item.toValue.values (leaves members) = members := by
  induction members with
  | nil => rfl
  | cons member members ih =>
    show (member.1, member.2) :: Item.toValue.values (leaves members) = _
    rw [ih]

/-- A document that fills in tables describes them. -/
theorem ofStatements?_statementsOf {tables : List (String × List (String × Toml))}
    (hnames : (tables.map Prod.fst).Nodup)
    (hkeys : ∀ table ∈ tables, (table.2.map Prod.fst).Nodup) :
    ofStatements? (statementsOf tables) =
      some (tables.map fun table => (table.1, .table table.2)) := by
  rw [ofStatements?, build_statementsOf (by simpa using hnames) hkeys]
  simp only [List.nil_append, Option.map_some]
  congr 1
  clear hnames hkeys
  induction tables with
  | nil => rfl
  | cons table tables ih =>
    rw [List.map_cons, List.map_cons, Item.toValue.values, ih, Item.toValue, values_leaves]

end CodeSearch.Toml
