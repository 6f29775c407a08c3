import ServiceCli.Failure

/-!
The verbs of each resource of a service, with the request type of each verb. Resources and verbs
keep the order in which they first came.
-/
namespace ServiceCli

structure VerbEntry where
  verb : String
  requestType : String
deriving Repr, DecidableEq

structure ResourceEntry where
  resource : String
  verbs : List VerbEntry := []
deriving Repr, DecidableEq

structure VerbTable where
  resources : List ResourceEntry := []
deriving Repr, DecidableEq

namespace VerbTable

def empty : VerbTable := {}

def isEmpty (t : VerbTable) : Bool := t.resources.isEmpty

def resource? (t : VerbTable) (resource : String) : Option ResourceEntry :=
  t.resources.find? (·.resource == resource)

/-- The request type of a verb of a resource. -/
def requestType? (t : VerbTable) (resource verb : String) : Option String :=
  (t.resource? resource).bind fun entry =>
    (entry.verbs.find? (·.verb == verb)).map (·.requestType)

/-- Adds a verb at the end of the verbs of a resource, which is new at the end if it is not there.
-/
def push (resource : String) (entry : VerbEntry) : List ResourceEntry → List ResourceEntry
  | [] => [⟨resource, [entry]⟩]
  | r :: rs =>
    if r.resource = resource then { r with verbs := r.verbs ++ [entry] } :: rs
    else r :: push resource entry rs

/-- The table with a row for a resource. A new row is at the end and has no verbs yet. -/
def withRow (t : VerbTable) (resource : String) : VerbTable :=
  if (t.resource? resource).isSome then t else ⟨t.resources ++ [⟨resource, []⟩]⟩

/-- Registers the request type of a verb of a resource. The same type may be registered again, but a
verb cannot have two. The answer is what came of it and the table as it was left. -/
def register (t : VerbTable) (resource verb requestType : String) :
    Except Failure Unit × VerbTable :=
  let t := t.withRow resource
  match t.requestType? resource verb with
  | some existing =>
    if existing = requestType then (.ok (), t)
    else (.error (.verbCollision resource verb existing requestType), t)
  | none => (.ok (), ⟨push resource ⟨verb, requestType⟩ t.resources⟩)

/-- The table after a registration that does not fail. -/
def insert (t : VerbTable) (resource verb requestType : String) : Except Failure VerbTable :=
  let (outcome, after) := t.register resource verb requestType
  outcome.map fun _ => after

theorem withRow_of_requestType? {t : VerbTable} {resource verb requestType : String}
    (h : t.requestType? resource verb = some requestType) : t.withRow resource = t := by
  obtain ⟨entry, hentry, -⟩ := Option.bind_eq_some_iff.1 h
  rw [withRow, hentry, Option.isSome_some, if_pos rfl]

/-- A new row has no verbs. -/
theorem requestType?_withRow (t : VerbTable) (resource verb : String) :
    (t.withRow resource).requestType? resource verb = t.requestType? resource verb := by
  unfold withRow
  split
  · rfl
  · rename_i hnew
    have hnone : t.resource? resource = none := by simpa using hnew
    have hrow : (VerbTable.mk (t.resources ++ [⟨resource, []⟩])).resource? resource =
        some ⟨resource, []⟩ := by
      rw [resource?] at hnone ⊢
      simp [List.find?_append, hnone]
    rw [requestType?, requestType?, hrow, hnone]
    rfl

theorem push_append_row {rows : List ResourceEntry} {resource : String}
    (h : ∀ r ∈ rows, r.resource ≠ resource) (entry : VerbEntry) :
    push resource entry (rows ++ [⟨resource, []⟩]) = push resource entry rows := by
  induction rows with
  | nil => simp [push]
  | cons r rows ih =>
    obtain ⟨hr, hrows⟩ := List.forall_mem_cons.1 h
    rw [List.cons_append, push, push, if_neg hr, if_neg hr, ih hrows]

theorem push_withRow (t : VerbTable) (resource : String) (entry : VerbEntry) :
    push resource entry (t.withRow resource).resources = push resource entry t.resources := by
  unfold withRow
  split
  · rfl
  · rename_i hnew
    refine push_append_row (fun r hr heq => hnew ?_) entry
    rw [resource?, List.find?_isSome]
    exact ⟨r, hr, by simpa using heq⟩

/-- No row is left behind that was only made in advance. -/
theorem register_eq (t : VerbTable) (resource verb requestType : String) :
    t.register resource verb requestType =
      match t.requestType? resource verb with
      | some existing =>
        (if existing = requestType then .ok ()
          else .error (.verbCollision resource verb existing requestType), t)
      | none => (.ok (), ⟨push resource ⟨verb, requestType⟩ t.resources⟩) := by
  simp only [register, requestType?_withRow, push_withRow]
  cases hknown : t.requestType? resource verb with
  | none => rfl
  | some existing =>
    rw [withRow_of_requestType? hknown]
    dsimp only
    split <;> rfl

theorem insert_eq (t : VerbTable) (resource verb requestType : String) :
    t.insert resource verb requestType =
      match t.requestType? resource verb with
      | some existing =>
        if existing = requestType then .ok t
        else .error (.verbCollision resource verb existing requestType)
      | none => .ok ⟨push resource ⟨verb, requestType⟩ t.resources⟩ := by
  simp only [insert, register_eq]
  cases t.requestType? resource verb with
  | none => rfl
  | some existing =>
    dsimp only
    split <;> rfl

end VerbTable

end ServiceCli
