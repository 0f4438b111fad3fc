/-
Finite tables: at most one entry for each key.

Everything that this library looks up by name or by identity lives in such a
table: the handles bound in a context, the units of a registry, the declared
methods.  `find?` is the one view of a table, and each operation says what it
does to that view.  The entries come newest first.
-/

namespace Demarcation

/-- A finite map as its list of entries, no key twice. -/
structure Table (κ α : Type) where
  entries : List (κ × α)
  nodup : (entries.map Prod.fst).Nodup
deriving DecidableEq

namespace Table

variable {κ α : Type}

def empty : Table κ α := ⟨[], List.nodup_nil⟩

instance : Inhabited (Table κ α) := ⟨empty⟩

def isEmpty (t : Table κ α) : Bool := t.entries.isEmpty

def size (t : Table κ α) : Nat := t.entries.length

def keys (t : Table κ α) : List κ := t.entries.map Prod.fst

def values (t : Table κ α) : List α := t.entries.map Prod.snd

theorem nodup_keys (t : Table κ α) : t.keys.Nodup := t.nodup

variable [DecidableEq κ]

/-- The value under `k`. -/
def find? (t : Table κ α) (k : κ) : Option α := (t.entries.find? (·.1 = k)).map Prod.snd

def contains (t : Table κ α) (k : κ) : Bool := (t.find? k).isSome

/-- The table without an entry for `k`. -/
def erase (t : Table κ α) (k : κ) : Table κ α where
  entries := t.entries.filter (·.1 ≠ k)
  nodup := t.nodup.sublist (List.filter_sublist.map Prod.fst)

/-- The table with `v` under `k`, in place of whatever was there. -/
def insert (t : Table κ α) (k : κ) (v : α) : Table κ α where
  entries := (k, v) :: (t.erase k).entries
  nodup := by
    refine List.nodup_cons.2 ⟨?_, (t.erase k).nodup⟩
    simp [erase]

@[simp] theorem find?_empty (k : κ) : (empty : Table κ α).find? k = none := rfl

theorem find?_insert (t : Table κ α) (k l : κ) (v : α) :
    (t.insert k v).find? l = if k = l then some v else t.find? l := by
  by_cases h : k = l
  · simp [find?, insert, h]
  · have : ∀ e : κ × α, e.1 = l → e.1 ≠ k := fun e he hk => h (hk.symm.trans he)
    simp only [find?, insert, erase, h, if_false, List.find?_cons, decide_false,
      List.find?_filter]
    congr 2
    funext e
    by_cases he : e.1 = l <;> simp [he, Ne.symm h]

theorem find?_erase (t : Table κ α) (k l : κ) :
    (t.erase k).find? l = if k = l then none else t.find? l := by
  by_cases h : k = l
  · subst h
    simp only [find?, erase, if_true, List.find?_filter, Option.map_eq_none_iff,
      List.find?_eq_none]
    intro e _
    simp
  · simp only [find?, erase, h, if_false, List.find?_filter]
    congr 2
    funext e
    by_cases he : e.1 = l <;> simp [he, Ne.symm h]

theorem mem_keys_iff (t : Table κ α) (k : κ) : k ∈ t.keys ↔ t.find? k ≠ none := by
  simp [keys, find?, List.find?_eq_none]

end Table

end Demarcation
