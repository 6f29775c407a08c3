/-!
Finite maps from names to values, kept in the order of the names. Names are compared by code points,
which is also the order of their UTF-8 bytes.
-/
namespace ServiceCli

/-- Entries with strictly ascending names. -/
structure NameMap (α : Type) where
  entries : List (String × α)
  ascending : entries.Pairwise (·.1 < ·.1)

namespace NameMap

variable {α β : Type}

instance [Repr α] : Repr (NameMap α) := ⟨fun m n => reprPrec m.entries n⟩

@[ext] theorem ext {m n : NameMap α} (h : m.entries = n.entries) : m = n := by
  cases m; cases n; simp_all

instance [DecidableEq α] : DecidableEq (NameMap α) := fun m n =>
  decidable_of_iff (m.entries = n.entries) ⟨NameMap.ext, congrArg _⟩

def empty : NameMap α := ⟨[], .nil⟩

def get? (m : NameMap α) (name : String) : Option α := m.entries.lookup name

def contains (m : NameMap α) (name : String) : Bool := (m.get? name).isSome

def keys (m : NameMap α) : List String := m.entries.map (·.1)

def values (m : NameMap α) : List α := m.entries.map (·.2)

def size (m : NameMap α) : Nat := m.entries.length

theorem mem_keys_of_get? {m : NameMap α} {name : String} {a : α} (h : m.get? name = some a) :
    name ∈ m.keys := by
  obtain ⟨l, r, hl, -⟩ := List.lookup_eq_some_iff.1 h
  simp [keys, hl]

/-- Puts an entry at its place, over an entry with the same name. -/
def place (name : String) (a : α) : List (String × α) → List (String × α)
  | [] => [(name, a)]
  | e :: es =>
    if name < e.1 then (name, a) :: e :: es
    else if name = e.1 then (name, a) :: es
    else e :: place name a es

theorem mem_place {name : String} {a : α} {es : List (String × α)} {x : String × α}
    (h : x ∈ place name a es) : x = (name, a) ∨ x ∈ es := by
  induction es with
  | nil => simpa [place] using h
  | cons e es ih =>
    unfold place at h
    split at h
    · simpa using h
    · split at h
      · rcases List.mem_cons.1 h with h | h
        · exact .inl h
        · exact .inr (List.mem_cons_of_mem _ h)
      · rcases List.mem_cons.1 h with h | h
        · exact .inr (h ▸ List.mem_cons_self)
        · exact (ih h).imp id (List.mem_cons_of_mem _)

theorem place_ascending {name : String} {a : α} {es : List (String × α)}
    (h : es.Pairwise (·.1 < ·.1)) : (place name a es).Pairwise (·.1 < ·.1) := by
  induction es with
  | nil => simp [place]
  | cons e es ih =>
    obtain ⟨he, hes⟩ := List.pairwise_cons.1 h
    unfold place
    split
    · rename_i hlt
      refine List.pairwise_cons.2 ⟨?_, h⟩
      intro x hx
      rcases List.mem_cons.1 hx with rfl | hx
      · exact hlt
      · exact String.lt_trans hlt (he x hx)
    · split
      · rename_i heq
        exact List.pairwise_cons.2 ⟨fun x hx => heq ▸ he x hx, hes⟩
      · rename_i hlt hne
        refine List.pairwise_cons.2 ⟨?_, ih hes⟩
        intro x hx
        rcases mem_place hx with rfl | hx
        · exact String.not_le.1 fun hle => hne (String.le_antisymm (String.not_lt.1 hlt) hle).symm
        · exact he x hx

/-- The map with one entry added or replaced. -/
def insert (m : NameMap α) (name : String) (a : α) : NameMap α :=
  ⟨place name a m.entries, place_ascending m.ascending⟩

def ofList (es : List (String × α)) : NameMap α := es.foldl (fun m e => m.insert e.1 e.2) empty

@[simp] theorem get?_empty (name : String) : (empty : NameMap α).get? name = none := rfl

theorem lookup_cons_eq (name : String) (e : String × α) (es : List (String × α)) :
    (e :: es).lookup name = if name = e.1 then some e.2 else es.lookup name := by
  rw [List.lookup_cons]
  by_cases h : name = e.1
  · simp [h]
  · simp [h, beq_eq_false_iff_ne.2 h]

theorem lookup_place (name other : String) (a : α) (es : List (String × α)) :
    (place name a es).lookup other = if other = name then some a else es.lookup other := by
  induction es with
  | nil => simp [place, lookup_cons_eq]
  | cons e es ih =>
    unfold place
    split
    · rw [lookup_cons_eq]
    · split
      · rename_i heq
        simp only [lookup_cons_eq, ← heq]
        split <;> rfl
      · rename_i hne
        rw [lookup_cons_eq, lookup_cons_eq, ih]
        by_cases h : other = name
        · rw [if_pos h, if_pos h, if_neg (h ▸ hne)]
        · rw [if_neg h, if_neg h]

theorem get?_insert (m : NameMap α) (name other : String) (a : α) :
    (m.insert name a).get? other = if other = name then some a else m.get? other :=
  lookup_place name other a m.entries

@[simp] theorem get?_insert_self (m : NameMap α) (name : String) (a : α) :
    (m.insert name a).get? name = some a := by
  rw [get?_insert, if_pos rfl]

theorem get?_insert_of_ne (m : NameMap α) {name other : String} (a : α) (h : other ≠ name) :
    (m.insert name a).get? other = m.get? other := by
  rw [get?_insert, if_neg h]

/-- A name has at most one entry, so looking it up finds every entry. -/
theorem get?_eq_some_iff {m : NameMap α} {name : String} {a : α} :
    m.get? name = some a ↔ (name, a) ∈ m.entries := by
  constructor
  · intro h
    obtain ⟨l, r, hl, -⟩ := List.lookup_eq_some_iff.1 h
    simp [hl]
  · intro h
    obtain ⟨l, r, hl⟩ := List.append_of_mem h
    refine List.lookup_eq_some_iff.2 ⟨l, r, hl, ?_⟩
    intro e he
    have hascending := List.pairwise_append.1 (hl ▸ m.ascending)
    have hlt : e.1 < name := hascending.2.2 e he (name, a) (by simp)
    have hne : name ≠ e.1 := fun heq => String.lt_irrefl name (by rwa [← heq] at hlt)
    simpa using hne

theorem contains_iff {m : NameMap α} {name : String} :
    m.contains name = true ↔ ∃ a, m.get? name = some a :=
  Option.isSome_iff_exists

theorem contains_insert (m : NameMap α) (name other : String) (a : α) :
    (m.insert name a).contains other = true ↔ other = name ∨ m.contains other = true := by
  unfold contains
  rw [get?_insert]
  by_cases h : other = name <;> simp [h]

theorem ofList_concat (es : List (String × α)) (name : String) (a : α) :
    ofList (es ++ [(name, a)]) = (ofList es).insert name a := by
  simp [ofList, List.foldl_append]

theorem contains_foldl_insert (es : List (String × α)) (m : NameMap α) (name : String) :
    (es.foldl (fun m e => m.insert e.1 e.2) m).contains name = true ↔
      m.contains name = true ∨ name ∈ es.map (·.1) := by
  induction es generalizing m with
  | nil => simp
  | cons e es ih =>
    rw [List.foldl_cons, ih, contains_insert, List.map_cons, List.mem_cons, or_assoc,
      or_left_comm]

theorem contains_ofList (es : List (String × α)) (name : String) :
    (ofList es).contains name = true ↔ name ∈ es.map (·.1) := by
  rw [ofList, contains_foldl_insert]
  simp [contains]

theorem mem_of_get?_foldl_insert {es : List (String × α)} {m : NameMap α} {name : String} {a : α}
    (h : (es.foldl (fun m e => m.insert e.1 e.2) m).get? name = some a) :
    m.get? name = some a ∨ (name, a) ∈ es := by
  induction es generalizing m with
  | nil => exact .inl h
  | cons e es ih =>
    rcases ih h with hget | hmem
    · rw [get?_insert] at hget
      split at hget
      · rename_i hname
        rw [hname, ← Option.some.inj hget]
        exact .inr List.mem_cons_self
      · exact .inl hget
    · exact .inr (List.mem_cons_of_mem e hmem)

theorem mem_of_get?_ofList {es : List (String × α)} {name : String} {a : α}
    (h : (ofList es).get? name = some a) : (name, a) ∈ es :=
  (mem_of_get?_foldl_insert h).resolve_left nofun

end NameMap

end ServiceCli
