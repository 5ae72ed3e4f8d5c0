import BrightScript.Text.Fold
set_option autoImplicit false

/-!
Finite maps from names to values. A name is looked up without regard to the case of its ASCII
letters; the entries are kept under their folded names, in increasing order, each name once.
-/

namespace BrightScript

namespace Entries

variable {α : Type}

def find? (key : String) : List (String × α) → Option α
  | [] => none
  | (k, v) :: rest => if key = k then some v else find? key rest

def put (key : String) (value : α) : List (String × α) → List (String × α)
  | [] => [(key, value)]
  | (k, v) :: rest =>
    if key = k then (key, value) :: rest
    else if key < k then (key, value) :: (k, v) :: rest
    else (k, v) :: put key value rest

def drop (key : String) (entries : List (String × α)) : List (String × α) :=
  entries.filter fun entry => entry.1 ≠ key

theorem mem_put {key : String} {value : α} {entries : List (String × α)} {entry : String × α}
    (member : entry ∈ put key value entries) : entry = (key, value) ∨ entry ∈ entries := by
  induction entries with
  | nil => simpa [put] using member
  | cons head rest ih =>
    obtain ⟨k, v⟩ := head
    simp only [put] at member
    split at member
    · rcases List.mem_cons.1 member with same | later
      · exact .inl same
      · exact .inr (List.mem_cons_of_mem _ later)
    · split at member
      · exact List.mem_cons.1 member
      · rcases List.mem_cons.1 member with same | later
        · exact .inr (same ▸ List.mem_cons_self)
        · rcases ih later with same | old
          · exact .inl same
          · exact .inr (List.mem_cons_of_mem _ old)

theorem put_pairwise {key : String} {value : α} {entries : List (String × α)}
    (ordered : entries.Pairwise fun a b => a.1 < b.1) :
    (put key value entries).Pairwise fun a b => a.1 < b.1 := by
  induction entries with
  | nil => simp [put]
  | cons head rest ih =>
    obtain ⟨k, v⟩ := head
    have below := (List.pairwise_cons.1 ordered).1
    have later := (List.pairwise_cons.1 ordered).2
    simp only [put]
    split
    · rename_i same
      subst same
      exact List.pairwise_cons.2 ⟨below, later⟩
    · rename_i differs
      split
      · rename_i less
        refine List.pairwise_cons.2 ⟨?_, ordered⟩
        intro entry member
        rcases List.mem_cons.1 member with same | old
        · exact same ▸ less
        · exact String.lt_trans less (below entry old)
      · rename_i notLess
        refine List.pairwise_cons.2 ⟨?_, ih later⟩
        intro entry member
        rcases mem_put member with same | old
        · subst same
          rcases Std.Trichotomous.rel_or_eq_or_rel_swap (r := fun a b : String => a < b)
            (a := key) (b := k) with less | same | more
          · exact absurd less notLess
          · exact absurd same differs
          · exact more
        · exact below entry old

end Entries

structure Table (α : Type) where
  entries : List (String × α)
  ordered : entries.Pairwise fun a b => a.1 < b.1
  folded : ∀ entry ∈ entries, fold entry.1 = entry.1

namespace Table

variable {α : Type}

def empty : Table α := ⟨[], List.Pairwise.nil, by simp⟩

instance : Inhabited (Table α) := ⟨empty⟩

def get? (t : Table α) (name : String) : Option α :=
  Entries.find? (fold name) t.entries

def insert (t : Table α) (name : String) (value : α) : Table α where
  entries := Entries.put (fold name) value t.entries
  ordered := Entries.put_pairwise t.ordered
  folded := by
    intro entry member
    rcases Entries.mem_put member with same | old
    · subst same; exact fold_fold name
    · exact t.folded entry old

def erase (t : Table α) (name : String) : Table α where
  entries := Entries.drop (fold name) t.entries
  ordered := t.ordered.filter _
  folded := fun entry member => t.folded entry (List.mem_filter.1 member).1

def contains (t : Table α) (name : String) : Bool :=
  (t.get? name).isSome

def size (t : Table α) : Nat :=
  t.entries.length

def isEmpty (t : Table α) : Bool :=
  t.entries.isEmpty

def keys (t : Table α) : List String :=
  t.entries.map (·.1)

def values (t : Table α) : List α :=
  t.entries.map (·.2)

def insertAll (t : Table α) (pairs : List (String × α)) : Table α :=
  pairs.foldl (fun acc pair => acc.insert pair.1 pair.2) t

def ofList (pairs : List (String × α)) : Table α :=
  empty.insertAll pairs

end Table

end BrightScript
