import Switchboard.Text.Order

set_option autoImplicit false

/-!
# Maps from names

A map from names keeps its entries in ascending order of the names, each name once.  Main
statements: a name that was just set is found with its new value, every other name is found as
before (`find?_insert`), and the names are in strictly ascending order (`sorted`).
-/

namespace Switchboard

/-- A map from names to values, in ascending order of the names. -/
structure NameMap (α : Type) where
  entries : List (Text × α) := []
  sorted : entries.Pairwise fun e f => Text.precedes e.1 f.1 = true := by exact List.Pairwise.nil

namespace NameMap

variable {α : Type}

/-- The map without entries. -/
def empty : NameMap α := {}

instance : Inhabited (NameMap α) := ⟨empty⟩

/-- The value of a name in a list of entries. -/
def findIn (name : Text) : List (Text × α) → Option α
  | [] => none
  | (key, value) :: rest => if key = name then some value else findIn name rest

/-- The entries with a name set to a value. -/
def insertIn (name : Text) (value : α) : List (Text × α) → List (Text × α)
  | [] => [(name, value)]
  | (key, old) :: rest =>
    if key = name then (name, value) :: rest
    else if Text.precedes name key then (name, value) :: (key, old) :: rest
    else (key, old) :: insertIn name value rest

theorem mem_insertIn {name : Text} {value : α} {l : List (Text × α)} {e : Text × α}
    (h : e ∈ insertIn name value l) : e = (name, value) ∨ e ∈ l := by
  induction l with
  | nil => simpa [insertIn] using h
  | cons f rest ih =>
    obtain ⟨key, old⟩ := f
    unfold insertIn at h
    split at h
    · rcases List.mem_cons.1 h with h | h
      · exact .inl h
      · exact .inr (List.mem_cons_of_mem _ h)
    · split at h
      · rcases List.mem_cons.1 h with h | h
        · exact .inl h
        · exact .inr h
      · rcases List.mem_cons.1 h with h | h
        · exact .inr (h ▸ List.mem_cons_self)
        · exact (ih h).imp_right (List.mem_cons_of_mem _)

theorem sorted_insertIn (name : Text) (value : α) {l : List (Text × α)}
    (h : l.Pairwise fun e f => Text.precedes e.1 f.1 = true) :
    (insertIn name value l).Pairwise fun e f => Text.precedes e.1 f.1 = true := by
  induction l with
  | nil => simp [insertIn]
  | cons f rest ih =>
    obtain ⟨key, old⟩ := f
    obtain ⟨hkey, hrest⟩ := List.pairwise_cons.1 h
    unfold insertIn
    split
    · rename_i heq
      subst heq
      exact List.pairwise_cons.2 ⟨hkey, hrest⟩
    · rename_i hne
      split
      · rename_i hlt
        refine List.pairwise_cons.2 ⟨fun e he => ?_, h⟩
        rcases List.mem_cons.1 he with rfl | he
        · exact hlt
        · exact Text.precedes_trans hlt (hkey e he)
      · rename_i hlt
        refine List.pairwise_cons.2 ⟨fun e he => ?_, ih hrest⟩
        rcases mem_insertIn he with rfl | he
        · exact (Text.precedes_or_precedes hne).resolve_right hlt
        · exact hkey e he

/-- The value of a name. -/
def find? (m : NameMap α) (name : Text) : Option α := findIn name m.entries

/-- The map with a name set to a value. -/
def insert (m : NameMap α) (name : Text) (value : α) : NameMap α where
  entries := insertIn name value m.entries
  sorted := sorted_insertIn name value m.sorted

/-- The names of a map, in ascending order. -/
def names (m : NameMap α) : List Text := m.entries.map (·.1)

/-- The map of some entries, where a later one replaces an earlier one of the same name. -/
def ofList (l : List (Text × α)) : NameMap α :=
  l.foldl (fun m e => m.insert e.1 e.2) empty

@[simp] theorem find?_empty (name : Text) : (empty : NameMap α).find? name = none := rfl

theorem findIn_insertIn (name other : Text) (value : α) (l : List (Text × α)) :
    findIn other (insertIn name value l)
      = if name = other then some value else findIn other l := by
  induction l with
  | nil => simp [insertIn, findIn]
  | cons f rest ih =>
    obtain ⟨key, old⟩ := f
    unfold insertIn
    split
    · rename_i heq
      subst heq
      by_cases h : key = other <;> simp [findIn, h]
    · rename_i hne
      split
      · by_cases h : name = other <;> simp [findIn, h]
      · by_cases hk : key = other
        · subst hk
          simp [findIn, Ne.symm hne]
        · simp [findIn, hk, ih]

theorem find?_insert (m : NameMap α) (name other : Text) (value : α) :
    (m.insert name value).find? other = if name = other then some value else m.find? other :=
  findIn_insertIn name other value m.entries

end NameMap

end Switchboard
