import ServiceCli.CommandTree
import ServiceCli.Proofs.Command.Regrouping

/-!
Filling the table of a service. The table has the different entries that were inserted, resource by
resource, and in each resource in the order in which they came.
-/
namespace ServiceCli

/-- The table that entries fill, one after the other. -/
def VerbTable.ofEntries (es : List CommandTree.Entry) : Except Failure VerbTable :=
  es.foldlM (fun t e => t.insert e.resource e.verb e.requestType) .empty

namespace CommandTree

/-- The resources of entries, in the order in which they first come. -/
def resourcesOf (es : List Entry) : List String := (es.map (·.resource)).eraseDups

def verbsOf (es : List Entry) (resource : String) : List VerbEntry :=
  (es.eraseDups.filter (·.resource = resource)).map fun e => ⟨e.verb, e.requestType⟩

/-- The different entries, those with the first resource first. -/
def resourcewise (es : List Entry) : List Entry :=
  regroup (resourcesOf es) (·.resource) es.eraseDups

theorem mem_resourcesOf {es : List Entry} {e : Entry} (he : e ∈ es) :
    e.resource ∈ resourcesOf es :=
  List.mem_eraseDups.2 (List.mem_map_of_mem he)

theorem nodup_resourcesOf (es : List Entry) : (resourcesOf es).Nodup :=
  nodup_eraseDups _

theorem push_map {verbs : String → List VerbEntry} {keys : List String} (hkeys : keys.Nodup)
    (key : String) (v : VerbEntry) :
    VerbTable.push key v (keys.map fun k => ⟨k, verbs k⟩) =
      if key ∈ keys then keys.map fun k => ⟨k, if k = key then verbs k ++ [v] else verbs k⟩
      else (keys.map fun k => ⟨k, verbs k⟩) ++ [⟨key, [v]⟩] := by
  induction keys with
  | nil => rfl
  | cons k keys ih =>
    obtain ⟨hk, hkeys⟩ := List.nodup_cons.1 hkeys
    rw [List.map_cons, VerbTable.push, ih hkeys]
    by_cases heq : k = key
    · subst heq
      have hrest : (keys.map fun k' => ResourceEntry.mk k' (if k' = k then verbs k' ++ [v]
          else verbs k')) = keys.map fun k' => ⟨k', verbs k'⟩ :=
        List.map_congr_left fun k' hk' => by rw [if_neg fun heq : k' = k => hk (heq ▸ hk')]
      rw [if_pos rfl, if_pos List.mem_cons_self, List.map_cons, if_pos rfl, hrest]
    · by_cases hmem : key ∈ keys <;> simp [heq, hmem, Ne.symm heq]

theorem verbsOf_concat_of_mem {es : List Entry} {e : Entry} (he : e ∈ es) :
    verbsOf (es ++ [e]) = verbsOf es := by
  funext r
  rw [verbsOf, verbsOf, eraseDups_concat, if_pos he]

theorem verbsOf_concat {es : List Entry} {e : Entry} (he : e ∉ es) (r : String) :
    verbsOf (es ++ [e]) r =
      if r = e.resource then verbsOf es r ++ [⟨e.verb, e.requestType⟩] else verbsOf es r := by
  rw [verbsOf, eraseDups_concat, if_neg he, List.filter_append, List.map_append,
    List.filter_singleton]
  by_cases h : r = e.resource
  · simp [h, verbsOf]
  · simp [h, verbsOf, Ne.symm h]

theorem verbsOf_eq_nil {es : List Entry} {r : String} (hr : r ∉ resourcesOf es) :
    verbsOf es r = [] := by
  simp only [verbsOf, List.map_eq_nil_iff, List.filter_eq_nil_iff, decide_eq_true_eq]
  exact fun e he heq => hr (heq ▸ mem_resourcesOf (List.mem_eraseDups.1 he))

theorem verbsOf_ne_nil {es : List Entry} {r : String} (hr : r ∈ resourcesOf es) :
    verbsOf es r ≠ [] := by
  obtain ⟨e, he, rfl⟩ := List.mem_map.1 (List.mem_eraseDups.1 hr)
  have hmem : e ∈ es.eraseDups.filter (·.resource = e.resource) :=
    List.mem_filter.2 ⟨List.mem_eraseDups.2 he, by simp⟩
  exact List.ne_nil_of_mem (List.mem_map_of_mem hmem)

theorem resourcesOf_concat (es : List Entry) (e : Entry) :
    resourcesOf (es ++ [e]) =
      if e.resource ∈ resourcesOf es then resourcesOf es else resourcesOf es ++ [e.resource] := by
  rw [resourcesOf, List.map_append, List.map_singleton, eraseDups_concat]
  simp only [resourcesOf, List.mem_eraseDups]

theorem resource?_eq {es : List Entry} {t : VerbTable}
    (ht : t.resources = (resourcesOf es).map fun r => ⟨r, verbsOf es r⟩) (resource : String) :
    ((t.resource? resource).map (·.verbs)).getD [] = verbsOf es resource := by
  have hrow : t.resource? resource = ((resourcesOf es).find? fun r => r == resource).map fun r =>
      ⟨r, verbsOf es r⟩ := by
    rw [VerbTable.resource?, ht, List.find?_map]
    rfl
  rw [hrow]
  cases hfind : (resourcesOf es).find? fun r => r == resource with
  | none =>
    have hnone : resource ∉ resourcesOf es := fun hmem => by
      simpa using List.find?_eq_none.1 hfind resource hmem
    rw [verbsOf_eq_nil hnone]
    rfl
  | some r =>
    have hr : r = resource := by simpa using List.find?_some hfind
    rw [hr]
    rfl

theorem requestType?_eq {es : List Entry} {t : VerbTable}
    (ht : t.resources = (resourcesOf es).map fun r => ⟨r, verbsOf es r⟩) (resource verb : String) :
    t.requestType? resource verb =
      (es.eraseDups.find? fun e => e.resource = resource ∧ e.verb = verb).map (·.requestType) := by
  have hrow : t.requestType? resource verb =
      ((verbsOf es resource).find? (·.verb == verb)).map (·.requestType) := by
    rw [← resource?_eq ht, VerbTable.requestType?]
    cases t.resource? resource <;> rfl
  rw [hrow, verbsOf, List.find?_map, List.find?_filter, Option.map_map]
  simp only [Function.comp_def, decide_eq_true_eq, beq_iff_eq]

/-- An insertion that succeeds adds an entry that is new and changes nothing otherwise. -/
theorem insert_resources {es : List Entry} {e : Entry} {s t : VerbTable}
    (hs : s.resources = (resourcesOf es).map fun r => ⟨r, verbsOf es r⟩)
    (h : s.insert e.resource e.verb e.requestType = .ok t) :
    t.resources = (resourcesOf (es ++ [e])).map fun r => ⟨r, verbsOf (es ++ [e]) r⟩ := by
  rw [VerbTable.insert_eq, requestType?_eq hs] at h
  cases hfind : es.eraseDups.find? fun e' => e'.resource = e.resource ∧ e'.verb = e.verb with
  | some e' =>
    -- The verb is there, and an insertion that succeeds has the request type that is there.
    rw [hfind, Option.map_some] at h
    dsimp only at h
    split at h
    · rename_i htype
      cases h
      have hkeys : e'.resource = e.resource ∧ e'.verb = e.verb := by
        simpa using List.find?_some hfind
      have heq : e' = e := by
        cases e
        cases e'
        simp_all
      have hmem : e ∈ es := heq ▸ List.mem_eraseDups.1 (List.mem_of_find?_eq_some hfind)
      rw [hs, verbsOf_concat_of_mem hmem, resourcesOf_concat, if_pos (mem_resourcesOf hmem)]
    · cases h
  | none =>
    have hnew : e ∉ es := fun hmem => by
      simpa using List.find?_eq_none.1 hfind e (List.mem_eraseDups.2 hmem)
    rw [hfind, Option.map_none] at h
    cases h
    dsimp only
    rw [hs, push_map (nodup_resourcesOf es), resourcesOf_concat]
    simp only [verbsOf_concat hnew]
    by_cases hresource : e.resource ∈ resourcesOf es
    · rw [if_pos hresource, if_pos hresource]
    · rw [if_neg hresource, if_neg hresource, List.map_append, List.map_singleton, if_pos rfl,
        verbsOf_eq_nil hresource, List.nil_append]
      congr 1
      refine List.map_congr_left fun r hr => ?_
      rw [if_neg fun heq : r = e.resource => hresource (heq ▸ hr)]

/-- A table has one row for each resource, with the different entries of that resource. -/
theorem ofEntries_resources {es : List Entry} {t : VerbTable} (h : VerbTable.ofEntries es = .ok t) :
    t.resources = (resourcesOf es).map fun r => ⟨r, verbsOf es r⟩ := by
  induction es using List.reverseRecOn generalizing t with
  | nil =>
    cases h
    rfl
  | append_singleton es e ih =>
    rw [VerbTable.ofEntries, List.foldlM_append, bind_eq_ok] at h
    obtain ⟨s, hs, h⟩ := h
    obtain ⟨t, hinsert, h⟩ := bind_eq_ok.1 h
    cases h
    exact insert_resources (ih hs) hinsert

/-- The entries of a table are those it was filled with, resource by resource. -/
theorem entries_of_ofEntries {es : List Entry} {t : VerbTable}
    (h : VerbTable.ofEntries es = .ok t) : entries t = resourcewise es := by
  rw [entries, ofEntries_resources h, List.flatMap_map, resourcewise, regroup]
  refine List.flatMap_congr fun r _ => ?_
  rw [rowEntries, verbsOf, List.map_map]
  conv_rhs => rw [← List.map_id (es.eraseDups.filter fun e => e.resource = r)]
  refine List.map_congr_left fun e he => ?_
  have hr : e.resource = r := by simpa using (List.mem_filter.1 he).2
  subst hr
  rfl

end CommandTree

end ServiceCli
