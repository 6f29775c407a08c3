import ServiceCli.Proofs.Command.Filling

/-!
The groups of the two layouts. By resource a group is a row of the table, by verb it is gathered
from all rows. In a table that entries fill, gathering the entries of each resource gives the rows
again.
-/
namespace ServiceCli.CommandTree

theorem place_map {rows : String → List Entry} {keys : List String} (hkeys : keys.Nodup)
    (key : String) (e : Entry) :
    place key e (keys.map fun k => (k, rows k)) =
      if key ∈ keys then keys.map fun k => (k, if k = key then rows k ++ [e] else rows k)
      else (keys.map fun k => (k, rows k)) ++ [(key, [e])] := by
  induction keys with
  | nil => rfl
  | cons k keys ih =>
    obtain ⟨hk, hkeys⟩ := List.nodup_cons.1 hkeys
    rw [List.map_cons, place, ih hkeys]
    by_cases heq : k = key
    · subst heq
      have hrest : (keys.map fun k' => (k', if k' = k then rows k' ++ [e] else rows k')) =
          keys.map fun k' => (k', rows k') :=
        List.map_congr_left fun k' hk' => by rw [if_neg fun heq : k' = k => hk (heq ▸ hk')]
      rw [if_pos rfl, if_pos List.mem_cons_self, List.map_cons, if_pos rfl, hrest]
    · by_cases hmem : key ∈ keys <;> simp [heq, hmem, Ne.symm heq]

/-- The groups of entries have the keys in the order in which they come, each with its entries. -/
theorem grouped_eq (key : Entry → String) (es : List Entry) :
    grouped key es = (es.map key).eraseDups.map fun k => (k, es.filter (key · = k)) := by
  induction es using List.reverseRecOn with
  | nil => rfl
  | append_singleton es e ih =>
    have hstep : grouped key (es ++ [e]) = place (key e) e (grouped key es) := List.foldl_append
    rw [hstep, ih, place_map (nodup_eraseDups _), List.map_append, List.map_singleton,
      eraseDups_concat]
    simp only [List.mem_eraseDups, List.filter_append, List.filter_singleton]
    by_cases hkey : key e ∈ es.map key
    · rw [if_pos hkey, if_pos hkey]
      refine List.map_congr_left fun k _ => ?_
      by_cases heq : k = key e
      · simp [heq]
      · simp [heq, Ne.symm heq]
    · have hnone : es.filter (key · = key e) = [] := by
        simp only [List.filter_eq_nil_iff, decide_eq_true_eq]
        exact fun e' he' heq => hkey (List.mem_map.2 ⟨e', he', heq⟩)
      rw [if_neg hkey, if_neg hkey, List.map_append, List.map_singleton, hnone]
      simp only [decide_true, cond_true, List.nil_append]
      congr 1
      refine List.map_congr_left fun k hmem => ?_
      have hne : key e ≠ k := fun heq => hkey (heq ▸ List.mem_eraseDups.1 hmem)
      simp [hne]

theorem keys_grouped (key : Entry → String) (es : List Entry) :
    (grouped key es).map (·.1) = (es.map key).eraseDups := by
  rw [grouped_eq, List.map_map]
  exact List.map_id _

/-- A key is that of some entry, which is in the group. -/
theorem ne_nil_of_mem_grouped {key : Entry → String} {es : List Entry} {g : String × List Entry}
    (hg : g ∈ grouped key es) : g.2 ≠ [] := by
  rw [grouped_eq] at hg
  obtain ⟨k, hk, rfl⟩ := List.mem_map.1 hg
  obtain ⟨e, he, rfl⟩ := List.mem_map.1 (List.mem_eraseDups.1 hk)
  exact List.ne_nil_of_mem (List.mem_filter.2 ⟨he, by simp⟩)

theorem key_of_mem_grouped {key : Entry → String} {es : List Entry} {g : String × List Entry}
    (hg : g ∈ grouped key es) {e : Entry} (he : e ∈ g.2) : key e = g.1 := by
  rw [grouped_eq] at hg
  obtain ⟨k, -, rfl⟩ := List.mem_map.1 hg
  simpa using (List.mem_filter.1 he).2

theorem resource_of_mem_rowEntries {r : ResourceEntry} {e : Entry} (he : e ∈ rowEntries r) :
    e.resource = r.resource := by
  obtain ⟨v, -, rfl⟩ := List.mem_map.1 he
  rfl

theorem filter_rowEntries_of_ne {r : ResourceEntry} {resource : String}
    (h : r.resource ≠ resource) : (rowEntries r).filter (·.resource = resource) = [] := by
  simp only [List.filter_eq_nil_iff, decide_eq_true_eq]
  exact fun e he heq => h ((resource_of_mem_rowEntries he).symm.trans heq)

/-- If rows have different resources, the entries of a resource are those of its row. -/
theorem filter_rowEntries {rows : List ResourceEntry} (hrows : (rows.map (·.resource)).Nodup)
    {r : ResourceEntry} (hr : r ∈ rows) :
    (rows.flatMap rowEntries).filter (·.resource = r.resource) = rowEntries r := by
  induction rows with
  | nil => cases hr
  | cons row rows ih =>
    obtain ⟨hrow, hrows⟩ := List.nodup_cons.1 hrows
    rw [List.flatMap_cons, List.filter_append]
    obtain rfl | hr := List.mem_cons.1 hr
    · have hown : (rowEntries r).filter (·.resource = r.resource) = rowEntries r :=
        List.filter_eq_self.2 fun e he => by simpa using resource_of_mem_rowEntries he
      have hrest : (rows.flatMap rowEntries).filter (·.resource = r.resource) = [] := by
        rw [List.filter_flatMap, List.flatMap_eq_nil_iff]
        exact fun other hother => filter_rowEntries_of_ne fun heq =>
          hrow (List.mem_map.2 ⟨other, hother, heq⟩)
      rw [hown, hrest, List.append_nil]
    · have hne : row.resource ≠ r.resource := fun heq =>
        hrow (List.mem_map.2 ⟨r, hr, heq.symm⟩)
      rw [filter_rowEntries_of_ne hne, List.nil_append, ih hrows hr]

/-- The rows of a table are its entries grouped by resource exactly if no two rows have the same
resource and none is without verbs. -/
theorem rows_eq_grouped_iff {t : VerbTable} :
    groups t .resource = grouped (·.resource) (entries t) ↔
      (t.resources.map (·.resource)).Nodup ∧ ∀ r ∈ t.resources, r.verbs ≠ [] := by
  have hkeys : (groups t .resource).map (·.1) = t.resources.map (·.resource) := by
    rw [groups, List.map_map]
    rfl
  constructor
  · intro h
    rw [h, keys_grouped] at hkeys
    refine ⟨hkeys ▸ nodup_eraseDups _, fun r hr hverbs => ?_⟩
    have hmem : (r.resource, rowEntries r) ∈ grouped (·.resource) (entries t) :=
      h ▸ List.mem_map_of_mem hr
    exact ne_nil_of_mem_grouped hmem (by simp [rowEntries, hverbs])
  · rintro ⟨hrows, hverbs⟩
    have hregroup :
        regroup (t.resources.map (·.resource)) (·.resource) (entries t) = entries t := by
      rw [regroup, List.flatMap_map, entries]
      exact List.flatMap_congr fun r hr => filter_rowEntries hrows hr
    have hresources : ((entries t).map (·.resource)).eraseDups = t.resources.map (·.resource) := by
      rw [← hregroup]
      refine eraseDups_map_regroup hrows fun resource hresource => ?_
      obtain ⟨r, hr, rfl⟩ := List.mem_map.1 hresource
      obtain ⟨v, hv⟩ := List.exists_mem_of_ne_nil _ (hverbs r hr)
      exact ⟨⟨r.resource, v.verb, v.requestType⟩,
        List.mem_flatMap.2 ⟨r, hr, List.mem_map_of_mem hv⟩, rfl⟩
    rw [grouped_eq, hresources, List.map_map, groups]
    exact List.map_congr_left fun r hr => congrArg _ (filter_rowEntries hrows hr).symm

/-- A row without verbs is a group, although there is no entry to gather. -/
example : groups ⟨[⟨"cow", []⟩]⟩ .resource ≠
    grouped (·.resource) (entries ⟨[⟨"cow", []⟩]⟩) := by
  decide

/-- In either layout a table that entries fill has its entries grouped by the key of the layout. -/
theorem groups_eq_grouped {es : List Entry} {t : VerbTable} (ht : VerbTable.ofEntries es = .ok t)
    (layout : Layout) : groups t layout = grouped (·.groupKey layout) (entries t) := by
  cases layout with
  | verb => rfl
  | resource =>
    have hrows := ofEntries_resources ht
    refine rows_eq_grouped_iff.2 ⟨?_, fun r hr => ?_⟩
    · rw [hrows, List.map_map]
      exact (List.map_id _).symm ▸ nodup_resourcesOf es
    · rw [hrows] at hr
      obtain ⟨resource, hresource, rfl⟩ := List.mem_map.1 hr
      exact verbsOf_ne_nil hresource

end ServiceCli.CommandTree
