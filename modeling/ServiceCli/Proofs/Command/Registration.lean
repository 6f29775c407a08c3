import ServiceCli.Proofs.Command.Order
import ServiceCli.ResourceVerb

/-!
Registrations in a table, of which some fail. The table holds the first registration of each
resource and verb. A registration that fails leaves nothing behind, not even a row for its resource.
-/
namespace ServiceCli

/-- The table after registrations one after the other, whatever comes of each. -/
def VerbTable.ofAttempts (es : List CommandTree.Entry) : VerbTable :=
  es.foldl (fun t e => (t.register e.resource e.verb e.requestType).2) .empty

namespace CommandTree

def Entry.pair (e : Entry) : ResourceVerb := ⟨e.resource, e.verb⟩

/-- An entry that is the first one with its resource and verb. -/
def IsFirst (es : List Entry) (e : Entry) : Prop :=
  ∃ before after, es = before ++ e :: after ∧ ∀ a ∈ before, a.pair ≠ e.pair

/-- The entries of which none before has the same resource and verb. -/
def firsts (es : List Entry) : List Entry :=
  es.foldl (fun kept e => if e.pair ∈ kept.map Entry.pair then kept else kept ++ [e]) []

theorem firsts_concat (es : List Entry) (e : Entry) :
    firsts (es ++ [e]) =
      if e.pair ∈ (firsts es).map Entry.pair then firsts es else firsts es ++ [e] := by
  rw [firsts, List.foldl_append]
  rfl

theorem map_pair_firsts (es : List Entry) :
    (firsts es).map Entry.pair = (es.map Entry.pair).eraseDups := by
  induction es using List.reverseRecOn with
  | nil => rfl
  | append_singleton es e ih =>
    rw [firsts_concat, List.map_append, List.map_singleton, eraseDups_concat]
    have hmem : e.pair ∈ (firsts es).map Entry.pair ↔ e.pair ∈ es.map Entry.pair := by
      rw [ih, List.mem_eraseDups]
    by_cases he : e.pair ∈ es.map Entry.pair
    · rw [if_pos (hmem.2 he), if_pos he, ih]
    · rw [if_neg (mt hmem.1 he), if_neg he, List.map_append, ih, List.map_singleton]

theorem nodup_map_pair_firsts (es : List Entry) : ((firsts es).map Entry.pair).Nodup := by
  rw [map_pair_firsts]
  exact nodup_eraseDups _

theorem eraseDups_firsts (es : List Entry) : (firsts es).eraseDups = firsts es :=
  eraseDups_of_nodup (nodup_map_pair_firsts es).of_map

theorem find?_firsts (es : List Entry) (k : ResourceVerb) :
    (firsts es).find? (·.pair = k) = es.find? (·.pair = k) := by
  induction es using List.reverseRecOn with
  | nil => rfl
  | append_singleton es e ih =>
    rw [firsts_concat, List.find?_append, ← ih]
    split
    · rename_i hold
      by_cases hk : e.pair = k
      · obtain ⟨a, ha, hpair⟩ := List.mem_map.1 hold
        have hsome : ((firsts es).find? (·.pair = k)).isSome :=
          List.find?_isSome.2 ⟨a, ha, by simpa using hpair.trans hk⟩
        rw [Option.or_of_isSome hsome]
      · simp [hk]
    · rw [List.find?_append]

theorem isFirst_iff {es : List Entry} {e : Entry} :
    IsFirst es e ↔ es.find? (·.pair = e.pair) = some e := by
  simp [IsFirst, List.find?_eq_some_iff_append]

theorem mem_firsts {es : List Entry} {e : Entry} : e ∈ firsts es ↔ IsFirst es e := by
  rw [isFirst_iff, ← find?_firsts]
  constructor
  · intro he
    cases hfind : (firsts es).find? (·.pair = e.pair) with
    | none => simpa using List.find?_eq_none.1 hfind e he
    | some a =>
      have ha := List.mem_of_find?_eq_some hfind
      have hpair : a.pair = e.pair := by simpa using List.find?_some hfind
      rw [List.inj_on_of_nodup_map (nodup_map_pair_firsts es) ha he hpair]
  · exact List.mem_of_find?_eq_some

/-- A table that was filled with first entries knows the first request type of each pair. -/
theorem requestType?_of_firsts {es : List Entry} {t : VerbTable}
    (ht : VerbTable.ofEntries (firsts es) = .ok t) (resource verb : String) :
    t.requestType? resource verb =
      (es.find? (·.pair = ⟨resource, verb⟩)).map (·.requestType) := by
  rw [requestType?_eq (ofEntries_resources ht), eraseDups_firsts, ← find?_firsts]
  simp only [Entry.pair, ResourceVerb.mk.injEq]

/-- Only first entries matter, and they are registered without a failure. -/
theorem ofEntries_firsts (es : List Entry) :
    VerbTable.ofEntries (firsts es) = .ok (VerbTable.ofAttempts es) := by
  induction es using List.reverseRecOn with
  | nil => rfl
  | append_singleton es e ih =>
    have hknown := requestType?_of_firsts ih e.resource e.verb
    rw [VerbTable.ofAttempts, List.foldl_append, ← VerbTable.ofAttempts, List.foldl_cons,
      List.foldl_nil, VerbTable.register_eq, hknown, ← find?_firsts, firsts_concat]
    split
    · rename_i hold
      obtain ⟨a, ha, hpair⟩ := List.mem_map.1 hold
      cases hfind : (firsts es).find? (·.pair = ⟨e.resource, e.verb⟩) with
      | none => exact absurd (decide_eq_true hpair) (List.find?_eq_none.1 hfind a ha)
      | some b => exact ih
    · rename_i hnew
      have hnone : (firsts es).find? (·.pair = ⟨e.resource, e.verb⟩) = none :=
        List.find?_eq_none.2 fun a ha heq => hnew (List.mem_map.2 ⟨a, ha, of_decide_eq_true heq⟩)
      rw [VerbTable.ofEntries, List.foldlM_append, ← VerbTable.ofEntries, ih]
      show VerbTable.insert _ _ _ _ >>= pure = _
      rw [bind_pure, VerbTable.insert_eq, hknown, ← find?_firsts, hnone]
      rfl

theorem requestType?_ofAttempts (es : List Entry) (resource verb : String) :
    (VerbTable.ofAttempts es).requestType? resource verb =
      (es.find? (·.pair = ⟨resource, verb⟩)).map (·.requestType) :=
  requestType?_of_firsts (ofEntries_firsts es) resource verb

theorem requestType?_ofAttempts_eq_some {es : List Entry} {resource verb requestType : String} :
    (VerbTable.ofAttempts es).requestType? resource verb = some requestType ↔
      IsFirst es ⟨resource, verb, requestType⟩ := by
  rw [requestType?_ofAttempts, isFirst_iff, Option.map_eq_some_iff]
  constructor
  · rintro ⟨e, hfind, rfl⟩
    have hpair : e.pair = ⟨resource, verb⟩ := by simpa using List.find?_some hfind
    obtain ⟨rfl, rfl⟩ := ResourceVerb.mk.inj hpair
    exact hfind
  · exact fun hfind => ⟨_, hfind, rfl⟩

theorem mem_entries_ofAttempts {es : List Entry} {e : Entry} :
    e ∈ entries (VerbTable.ofAttempts es) ↔ IsFirst es e := by
  rw [entries_of_ofEntries (ofEntries_firsts es), mem_resourcewise, mem_firsts]

theorem resourcesOf_firsts (es : List Entry) :
    resourcesOf (firsts es) = (es.map (·.resource)).eraseDups := by
  have hresource (es : List Entry) :
      es.map (·.resource) = (es.map Entry.pair).map (·.resource) := by
    rw [List.map_map]
    rfl
  rw [resourcesOf, hresource, map_pair_firsts, eraseDups_map_eraseDups, ← hresource]

/-- Verbs of one resource are told apart by themselves. -/
theorem map_verb_verbsOf_firsts (es : List Entry) (resource : String) :
    (verbsOf (firsts es) resource).map (·.verb) =
      ((es.filter (·.resource = resource)).map (·.verb)).eraseDups := by
  have hverbs (es : List Entry) : (es.filter (·.resource = resource)).map (·.verb) =
      ((es.map Entry.pair).filter (·.resource = resource)).map (·.verb) := by
    rw [List.filter_map, List.map_map]
    rfl
  have hnodup : ((((es.map Entry.pair).filter (·.resource = resource)).eraseDups).map
      (·.verb)).Nodup := by
    refine (nodup_eraseDups _).map_on fun a ha b hb hverb => ?_
    have hresource : ∀ a ∈ ((es.map Entry.pair).filter (·.resource = resource)).eraseDups,
        a.resource = resource := fun a ha => by
      simpa using (List.mem_filter.1 (List.mem_eraseDups.1 ha)).2
    cases a
    cases b
    simp_all
  rw [verbsOf, eraseDups_firsts, List.map_map]
  show ((firsts es).filter (·.resource = resource)).map (·.verb) = _
  rw [hverbs, hverbs, map_pair_firsts, ← eraseDups_filter, ← eraseDups_map_eraseDups,
    eraseDups_of_nodup hnodup]

theorem resources_ofAttempts (es : List Entry) : (VerbTable.ofAttempts es).resources =
    (resourcesOf (firsts es)).map fun r => ⟨r, verbsOf (firsts es) r⟩ :=
  ofEntries_resources (ofEntries_firsts es)

/-- A row belongs to a resource that was registered, and has at least the first verb of it. -/
theorem verbs_ne_nil {es : List Entry} {row : ResourceEntry}
    (h : row ∈ (VerbTable.ofAttempts es).resources) : row.verbs ≠ [] := by
  rw [resources_ofAttempts] at h
  obtain ⟨r, hr, rfl⟩ := List.mem_map.1 h
  exact verbsOf_ne_nil hr

/-- After any registrations, also such that failed, the table has one row for each resource, none of
them empty, and in it one verb for each of the resource, both in the order in which they first came.
It holds the first registration of each resource and verb. A registration fails exactly if the first
one of its resource and verb had another request type, and the failure names that type. One that
fails, and one that is repeated, leaves the table as it was. -/
theorem ofAttempts_ordered (es : List Entry) :
    (((VerbTable.ofAttempts es).resources.map (·.resource)).Nodup ∧
      ∀ row ∈ (VerbTable.ofAttempts es).resources,
        row.verbs ≠ [] ∧ (row.verbs.map (·.verb)).Nodup) ∧
    (∀ resource verb requestType e,
      ((VerbTable.ofAttempts es).register resource verb requestType).1 = .error e ↔
        ∃ existing, IsFirst es ⟨resource, verb, existing⟩ ∧ existing ≠ requestType ∧
          e = .verbCollision resource verb existing requestType) ∧
    (∀ resource verb requestType e,
      ((VerbTable.ofAttempts es).register resource verb requestType).1 = .error e →
        ((VerbTable.ofAttempts es).register resource verb requestType).2 =
          VerbTable.ofAttempts es) ∧
    (∀ e ∈ entries (VerbTable.ofAttempts es),
      (VerbTable.ofAttempts es).register e.resource e.verb e.requestType =
        (.ok (), VerbTable.ofAttempts es)) ∧
    (∀ e, e ∈ entries (VerbTable.ofAttempts es) ↔ IsFirst es e) ∧
    (VerbTable.ofAttempts es).resources.map (·.resource) = (es.map (·.resource)).eraseDups ∧
    ∀ row ∈ (VerbTable.ofAttempts es).resources,
      row.verbs.map (·.verb) =
        ((es.filter (·.resource = row.resource)).map (·.verb)).eraseDups := by
  have hresources : (VerbTable.ofAttempts es).resources.map (·.resource) =
      (es.map (·.resource)).eraseDups := by
    rw [resources_ofAttempts, List.map_map, ← resourcesOf_firsts]
    exact List.map_id _
  have hverbs : ∀ row ∈ (VerbTable.ofAttempts es).resources, row.verbs.map (·.verb) =
      ((es.filter (·.resource = row.resource)).map (·.verb)).eraseDups := by
    intro row hrow
    rw [resources_ofAttempts] at hrow
    obtain ⟨r, -, rfl⟩ := List.mem_map.1 hrow
    exact map_verb_verbsOf_firsts es r
  refine ⟨⟨hresources ▸ nodup_eraseDups _, fun row hrow =>
    ⟨verbs_ne_nil hrow, hverbs row hrow ▸ nodup_eraseDups _⟩⟩, ?_, ?_, ?_,
    fun e => mem_entries_ofAttempts, hresources, hverbs⟩
  · intro resource verb requestType e
    simp only [← requestType?_ofAttempts_eq_some, VerbTable.register_eq]
    cases (VerbTable.ofAttempts es).requestType? resource verb with
    | none => simp
    | some existing =>
      by_cases heq : existing = requestType
      · simp [heq]
      · simp only [heq, if_false, Option.some.injEq, exists_eq_left', ne_eq, not_false_eq_true,
          true_and, Except.error.injEq]
        exact eq_comm
  · intro resource verb requestType e h
    rw [VerbTable.register_eq] at h ⊢
    cases hknown : (VerbTable.ofAttempts es).requestType? resource verb with
    | none =>
      rw [hknown] at h
      cases h
    | some existing => rfl
  · intro e he
    rw [mem_entries_ofAttempts, ← requestType?_ofAttempts_eq_some] at he
    rw [VerbTable.register_eq, he]
    simp

end CommandTree

end ServiceCli
