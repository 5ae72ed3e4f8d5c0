import BrightScript.Proofs.Designators
set_option autoImplicit false

namespace BrightScript

section ByteOrder

def bytes (text : String) : List UInt8 :=
  text.toUTF8.data.toList

theorem bytes_eq (text : String) : bytes text = text.toList.flatMap String.utf8EncodeChar := by
  unfold bytes
  rw [String.toUTF8_eq_toByteArray, ← String.utf8Encode_toList]
  simp [List.utf8Encode]

theorem encoded_lt {c d : Char} (less : c < d) (behind behind' : List UInt8) :
    String.utf8EncodeChar c ++ behind < String.utf8EncodeChar d ++ behind' := by
  have less : c.val.toNat < d.val.toNat := less
  have bound : d.val.toNat < 1114112 := by
    rcases d.valid with low | ⟨_, high⟩
    · exact Nat.lt_trans low (by decide)
    · exact high
  simp only [String.utf8EncodeChar]
  generalize c.val.toNat = m at less
  generalize d.val.toNat = n at less bound
  -- Each byte but the first is a digit to the base 64, and the last digits are found one by one.
  have digits : ∀ v : Nat, v / 4096 = v / 64 / 64 ∧ v / 262144 = v / 64 / 64 / 64 := by omega
  simp only [digits]
  repeat' split
  all_goals simp only [List.cons_append, List.nil_append, List.cons_lt_cons_iff,
    UInt8.lt_iff_toNat_lt, ← UInt8.toNat_inj, UInt8.toNat_ofNat']
  all_goals omega

theorem encoding_lt {l m : List Char} (less : l < m) :
    l.flatMap String.utf8EncodeChar < m.flatMap String.utf8EncodeChar := by
  induction l generalizing m with
  | nil =>
    cases m with
    | nil => simp at less
    | cons d m =>
      obtain ⟨first, others, encoded⟩ :=
        List.exists_cons_of_ne_nil (show String.utf8EncodeChar d ≠ [] by simp)
      simp [encoded, List.nil_lt_cons]
  | cons c l ih =>
    cases m with
    | nil => simp at less
    | cons d m =>
      simp only [List.flatMap_cons]
      rcases List.cons_lt_cons_iff.1 less with lower | ⟨rfl, rest⟩
      · exact encoded_lt lower _ _
      · exact List.append_left_lt (ih rest)

theorem bytes_lt {a b : String} (less : a < b) : bytes a < bytes b := by
  rw [bytes_eq, bytes_eq]
  exact encoding_lt (String.lt_iff.1 less)

end ByteOrder

abbrev Contents := String → Option Value

inductive Update where
  | store (key : String) (value : Value)
  | remove (key : String)
  | clear
  | absorb (entries : Contents)

def Update.apply (contents : Contents) : Update → Contents
  | .store key value => fun other => if other = fold key then some value else contents other
  | .remove key => fun other => if other = fold key then none else contents other
  | .clear => fun _ => none
  | .absorb entries => fun other => (entries other).or (contents other)

namespace Entries

variable {α : Type}

theorem find_drop (key other : String) (entries : List (String × α)) :
    find? other (drop key entries) = if other = key then none else find? other entries := by
  induction entries with
  | nil => simp [drop, find?]
  | cons head rest ih =>
    obtain ⟨k, v⟩ := head
    unfold drop at ih ⊢
    by_cases dropped : k = key
    · subst dropped
      simp only [List.filter_cons, ne_eq, not_true_eq_false, decide_false,
        Bool.false_eq_true, if_false]
      rw [ih]
      by_cases found : other = k <;> simp [find?, found]
    · by_cases found : other = k
      · subst found
        simp [dropped, find?]
      · simpa [dropped, find?, found] using ih

theorem find_isSome (key : String) (entries : List (String × α)) :
    (find? key entries).isSome ↔ key ∈ entries.map (·.1) := by
  induction entries with
  | nil => simp [find?]
  | cons head rest ih =>
    by_cases found : key = head.1 <;> simp [find?, found, ih]

theorem find_member {entries : List (String × α)} (ordered : entries.Pairwise fun a b => a.1 < b.1)
    {entry : String × α} (member : entry ∈ entries) : find? entry.1 entries = some entry.2 := by
  induction entries with
  | nil => simp at member
  | cons head rest ih =>
    obtain ⟨below, later⟩ := List.pairwise_cons.1 ordered
    rcases List.mem_cons.1 member with rfl | inside
    · simp [find?]
    · have differs : entry.1 ≠ head.1 := by
        intro same
        exact String.lt_irrefl _ (same ▸ below entry inside)
      simp [find?, differs, ih later inside]

end Entries

namespace Table

def contents (t : Table Value) : Contents :=
  fun key => Entries.find? key t.entries

theorem get_contents (t : Table Value) (name : String) : t.get? name = t.contents (fold name) := rfl

@[simp] theorem contents_empty : (empty : Table Value).contents = fun _ => none := rfl

theorem contents_insert (t : Table Value) (name : String) (value : Value) :
    (t.insert name value).contents = (Update.store name value).apply t.contents := by
  funext other
  exact Entries.find_put (fold name) other value t.entries

theorem contents_erase (t : Table Value) (name : String) :
    (t.erase name).contents = (Update.remove name).apply t.contents := by
  funext other
  exact Entries.find_drop (fold name) other t.entries

theorem contents_insert_all (t : Table Value) (pairs : List (String × Value)) :
    (t.insertAll pairs).contents =
      (pairs.map fun pair => Update.store pair.1 pair.2).foldl Update.apply t.contents := by
  unfold insertAll
  induction pairs generalizing t with
  | nil => rfl
  | cons pair rest ih =>
    simp only [List.foldl_cons, List.map_cons]
    rw [ih, contents_insert]

theorem absorb_entries {entries : List (String × Value)}
    (ordered : entries.Pairwise fun a b => a.1 < b.1)
    (folded : ∀ entry ∈ entries, fold entry.1 = entry.1) (contents : Contents) :
    (entries.map fun pair => Update.store pair.1 pair.2).foldl Update.apply contents =
      (Update.absorb fun key => Entries.find? key entries).apply contents := by
  induction entries generalizing contents with
  | nil => rfl
  | cons entry rest ih =>
    obtain ⟨below, later⟩ := List.pairwise_cons.1 ordered
    simp only [List.map_cons, List.foldl_cons]
    rw [ih later fun other member => folded other (List.mem_cons_of_mem _ member)]
    funext key
    simp only [Update.apply, Entries.find?, folded entry List.mem_cons_self]
    by_cases same : key = entry.1
    · have absent : Entries.find? key rest = none := by
        rw [← Option.not_isSome_iff_eq_none, Entries.find_isSome]
        intro inside
        obtain ⟨other, member, again⟩ := List.mem_map.1 inside
        exact String.lt_irrefl _ (again ▸ same ▸ below other member)
      simp [same ▸ absent, same]
    · simp [same]

theorem contents_absorb (t other : Table Value) :
    (t.insertAll other.entries).contents = (Update.absorb other.contents).apply t.contents := by
  rw [contents_insert_all]
  exact absorb_entries other.ordered other.folded t.contents

end Table

structure Lists (listing : List String) (contents : Contents) : Prop where
  increasing : listing.Pairwise fun a b => bytes a < bytes b
  complete : ∀ key, key ∈ listing ↔ (contents key).isSome
  folded : ∀ key ∈ listing, fold key = key

theorem Table.lists_keys (t : Table Value) : Lists t.keys t.contents where
  increasing := List.pairwise_map.2 (t.ordered.imp fun less => bytes_lt less)
  complete key := (Entries.find_isSome key t.entries).symm
  folded key member := by
    obtain ⟨entry, inside, rfl⟩ := List.mem_map.1 member
    exact t.folded entry inside

namespace Heap

def contents (h : Heap) (ref : Nat) : Contents :=
  (h.table ref).contents

structure Kept (changing : Nat → Prop) (h later : Heap) : Prop where
  tablesRemain : h.tables.size ≤ later.tables.size
  arraysRemain : h.arrays.size ≤ later.arrays.size
  tables : ∀ ref < h.tables.size, ¬ changing ref → later.table ref = h.table ref
  arrays : ∀ ref < h.arrays.size, later.array ref = h.array ref

def nothing (_ : Nat) : Prop := False

namespace Kept

variable {changing : Nat → Prop} {h later last : Heap}

theorem refl (changing : Nat → Prop) (h : Heap) : Kept changing h h :=
  ⟨Nat.le_refl _, Nat.le_refl _, fun _ _ _ => rfl, fun _ _ => rfl⟩

theorem of_same (tables : later.tables = h.tables) (arrays : later.arrays = h.arrays) :
    Kept changing h later where
  tablesRemain := Nat.le_of_eq (congrArg Array.size tables).symm
  arraysRemain := Nat.le_of_eq (congrArg Array.size arrays).symm
  tables _ _ _ := by simp only [Heap.table, tables]
  arrays _ _ := by simp only [Heap.array, arrays]

theorem trans (first : Kept changing h later) (second : Kept changing later last) :
    Kept changing h last where
  tablesRemain := Nat.le_trans first.tablesRemain second.tablesRemain
  arraysRemain := Nat.le_trans first.arraysRemain second.arraysRemain
  tables ref present unchanged :=
    (second.tables ref (Nat.lt_of_lt_of_le present first.tablesRemain) unchanged).trans
      (first.tables ref present unchanged)
  arrays ref present :=
    (second.arrays ref (Nat.lt_of_lt_of_le present first.arraysRemain)).trans
      (first.arrays ref present)

theorem imp {wider : Nat → Prop} (implies : ∀ ref, changing ref → wider ref)
    (kept : Kept changing h later) : Kept wider h later :=
  { kept with
    tables := fun ref present unchanged =>
      kept.tables ref present fun may => unchanged (implies ref may) }

end Kept

structure Updated (ref : Nat) (update : Option Update) (h later : Heap) : Prop where
  kept : h.Kept (· = ref) later
  contents : later.contents ref = update.toList.foldl Update.apply (h.contents ref)

section Changes

variable {h later last : Heap} {ref : Nat} {update : Option Update}

theorem updated_none (present : ref < h.tables.size) (kept : h.Kept nothing later) :
    Updated ref none h later where
  kept := kept.imp fun _ => False.elim
  contents := congrArg Table.contents (kept.tables ref present id)

theorem updated_after_kept (present : ref < h.tables.size) (kept : h.Kept nothing later)
    (updated : Updated ref update later last) : Updated ref update h last where
  kept := (kept.imp fun _ => False.elim).trans updated.kept
  contents := by
    have same : later.contents ref = h.contents ref :=
      congrArg Table.contents (kept.tables ref present id)
    rw [updated.contents, same]

theorem table_modify_same (present : ref < h.tables.size) (f : Table Value → Table Value) :
    (h.modifyTable ref f).table ref = f (h.table ref) := by
  simp [modifyTable, table, Array.getD_eq_getD_getElem?, Array.getElem_modify, present]

theorem table_modify_other {other : Nat} (differs : other ≠ ref) (f : Table Value → Table Value) :
    (h.modifyTable ref f).table other = h.table other := by
  simp [modifyTable, table, Array.getD_eq_getD_getElem?, Array.getElem?_modify, Ne.symm differs]

theorem updated_modify (present : ref < h.tables.size) {f : Table Value → Table Value}
    {update : Update} (does : (f (h.table ref)).contents = update.apply (h.contents ref)) :
    Updated ref (some update) h (h.modifyTable ref f) where
  kept := by
    refine ⟨by simp [modifyTable], Nat.le_refl _, ?_, fun _ _ => rfl⟩
    intro other _ differs
    exact table_modify_other differs f
  contents := by
    simp only [contents, table_modify_same present, does, Option.toList_some, List.foldl_cons,
      List.foldl_nil]

theorem new_table_kept (h : Heap) (entries : Table Value) :
    h.Kept nothing (h.newTable entries).2 where
  tablesRemain := by simp [newTable]
  arraysRemain := Nat.le_refl _
  tables ref present _ := by
    simp [newTable, table, Array.getD_eq_getD_getElem?, Array.getElem?_push, Nat.ne_of_lt present]
  arrays _ _ := rfl

theorem new_table_table (h : Heap) (entries : Table Value) :
    (h.newTable entries).2.table h.tables.size = entries := by
  simp [newTable, table, Array.getD_eq_getD_getElem?]

theorem new_array_kept (h : Heap) (elements : Array Value) :
    h.Kept nothing (h.newArray elements).2 where
  tablesRemain := Nat.le_refl _
  arraysRemain := by simp [newArray]
  tables _ _ _ := rfl
  arrays ref present := by
    simp [newArray, array, Array.getD_eq_getD_getElem?, Array.getElem?_push, Nat.ne_of_lt present]

theorem new_array_array (h : Heap) (elements : Array Value) :
    (h.newArray elements).2.array h.arrays.size = elements := by
  simp [newArray, array, Array.getD_eq_getD_getElem?]

end Changes

structure Itemized (h : Heap) (contents : Contents) (listing : List String) (items : List Value) :
    Prop where
  length : items.length = listing.length
  each : ∀ (i : Nat) (key : String), listing[i]? = some key →
    ∃ item value, items[i]? = some (Value.table item) ∧ contents key = some value ∧
      h.contents item =
      (Update.store "value" value).apply ((Update.store "key" (.string key)).apply fun _ => none)

theorem new_items_kept (h : Heap) (entries : List (String × Value)) :
    h.Kept nothing (h.newItems entries).2 := by
  induction entries generalizing h with
  | nil => exact Kept.refl nothing h
  | cons entry rest ih => exact (new_table_kept h _).trans (ih _)

theorem new_items_made (h : Heap) (entries : List (String × Value)) :
    (h.newItems entries).1.length = entries.length ∧
      ∀ (i : Nat) (entry : String × Value), entries[i]? = some entry →
        ∃ item, (h.newItems entries).1[i]? = some (Value.table item) ∧
        (h.newItems entries).2.table item = itemTable entry.1 entry.2 := by
  induction entries generalizing h with
  | nil => simp [newItems]
  | cons first rest ih =>
    obtain ⟨length, made⟩ := ih (h.newTable (itemTable first.1 first.2)).2
    refine ⟨congrArg (· + 1) length, ?_⟩
    intro i entry found
    cases i with
    | zero =>
      cases found
      refine ⟨h.tables.size, rfl, ?_⟩
      -- The later items leave the first as it was made.
      have kept := new_items_kept (h.newTable (itemTable first.1 first.2)).2 rest
      exact (kept.tables h.tables.size (by simp [newTable]) id).trans (new_table_table h _)
    | succ i => exact made i entry found

theorem new_items_itemized (h : Heap) (t : Table Value) :
    Itemized (h.newItems t.entries).2 t.contents t.keys (h.newItems t.entries).1 := by
  obtain ⟨length, made⟩ := new_items_made h t.entries
  refine ⟨by simp [length, Table.keys], ?_⟩
  intro i key found
  obtain ⟨entry, listed, rfl⟩ : ∃ entry, t.entries[i]? = some entry ∧ entry.1 = key := by
    simpa [Table.keys] using found
  obtain ⟨item, shown, table⟩ := made i entry listed
  refine ⟨item, entry.2, shown, Entries.find_member t.ordered (List.mem_of_getElem? listed), ?_⟩
  simp only [contents, table, itemTable, Table.contents_insert, Table.contents_empty]

end Heap

end BrightScript
