import ServiceCli.Proofs.Command.Order
import ServiceCli.Proofs.Generation.Functions

/-!
The commands of a service and its methods. Whatever the layout, there is one leaf for each pair of a
resource and a verb that a method resolves to, with the request type that all methods of the pair
have, and it stands in the group of its verb or of its resource.
-/
namespace ServiceCli

/-- The name of the method and its overrides give this resource and this verb. -/
def Method.Resolves (m : Method) (resource verb : String) : Prop :=
  ResourceVerb.resolve (ε := Failure) m.name m.overrides.annotations = .ok (some ⟨resource, verb⟩)

def Method.entry? (m : Method) : Option CommandTree.Entry :=
  match ResourceVerb.resolve (ε := Failure) m.name m.overrides.annotations with
  | .ok (some rv) => some ⟨rv.resource, rv.verb, m.inputType⟩
  | _ => none

theorem Method.entry?_eq_some {m : Method} {e : CommandTree.Entry} :
    m.entry? = some e ↔ m.Resolves e.resource e.verb ∧ m.inputType = e.requestType := by
  obtain ⟨resource, verb, requestType⟩ := e
  rw [Method.entry?, Method.Resolves]
  rcases ResourceVerb.resolve (ε := Failure) m.name m.overrides.annotations with e | _ | rv
  · simp
  · simp
  · obtain ⟨r, v⟩ := rv
    simp [and_assoc]

namespace CommandTree

/-- The entries of the methods that have a resource and a verb, in the order of the methods. -/
def resolutions (ms : List Method) : List Entry := ms.filterMap Method.entry?

theorem mem_resolutions {ms : List Method} {e : Entry} :
    e ∈ resolutions ms ↔
      ∃ m ∈ ms, m.Resolves e.resource e.verb ∧ m.inputType = e.requestType := by
  simp only [resolutions, List.mem_filterMap, Method.entry?_eq_some]

/-- Whether every verb of a resource has one request type. -/
def Agreeing (es : List Entry) : Prop :=
  ∀ a ∈ es, ∀ b ∈ es, a.resource = b.resource → a.verb = b.verb → a = b

theorem requestType?_of_mem {es : List Entry} {t : VerbTable}
    (ht : t.resources = (resourcesOf es).map fun r => ⟨r, verbsOf es r⟩) (hes : Agreeing es)
    {a : Entry} (ha : a ∈ es) : t.requestType? a.resource a.verb = some a.requestType := by
  rw [requestType?_eq ht]
  cases hfind : es.eraseDups.find? fun b => b.resource = a.resource ∧ b.verb = a.verb with
  | none =>
    have hnot := List.find?_eq_none.1 hfind a (List.mem_eraseDups.2 ha)
    simp at hnot
  | some b =>
    have hkeys : b.resource = a.resource ∧ b.verb = a.verb := by simpa using List.find?_some hfind
    have hb : b ∈ es := List.mem_eraseDups.1 (List.mem_of_find?_eq_some hfind)
    rw [hes b hb a ha hkeys.1 hkeys.2, Option.map_some]

/-- What is inserted again has the request type that it had. -/
theorem insert_agrees {es : List Entry} {e a : Entry} {s t : VerbTable}
    (hs : s.resources = (resourcesOf es).map fun r => ⟨r, verbsOf es r⟩) (hes : Agreeing es)
    (h : s.insert e.resource e.verb e.requestType = .ok t) (ha : a ∈ es)
    (hresource : a.resource = e.resource) (hverb : a.verb = e.verb) : a = e := by
  have hknown := requestType?_of_mem hs hes ha
  rw [hresource, hverb] at hknown
  rw [VerbTable.insert_eq, hknown] at h
  by_cases htype : a.requestType = e.requestType
  · cases a
    cases e
    simp_all
  · simp [htype] at h

/-- Entries that fill a table have one request type for each verb of a resource. -/
theorem ofEntries_agreeing {es : List Entry} {t : VerbTable} (h : VerbTable.ofEntries es = .ok t) :
    Agreeing es := by
  induction es using List.reverseRecOn generalizing t with
  | nil => simp [Agreeing]
  | append_singleton es e ih =>
    rw [VerbTable.ofEntries, List.foldlM_append, bind_eq_ok] at h
    obtain ⟨s, hs, h⟩ := h
    obtain ⟨t, hinsert, -⟩ := bind_eq_ok.1 h
    have hold := ih hs
    have hnew := fun a => insert_agrees (a := a) (ofEntries_resources hs) hold hinsert
    intro a ha b hb hresource hverb
    rcases List.mem_append.1 ha with ha' | ha' <;> rcases List.mem_append.1 hb with hb' | hb'
    · exact hold a ha' b hb' hresource hverb
    · obtain rfl := List.mem_singleton.1 hb'
      exact hnew a ha' hresource hverb
    · obtain rfl := List.mem_singleton.1 ha'
      exact (hnew b hb' hresource.symm hverb.symm).symm
    · rw [List.mem_singleton.1 ha', List.mem_singleton.1 hb']

theorem flatMap_grouped (key : Entry → String) (es : List Entry) :
    (grouped key es).flatMap (·.2) = regroup (es.map key).eraseDups key es := by
  rw [grouped_eq, List.flatMap_map, regroup]

theorem mem_flatMap_grouped {key : Entry → String} {es : List Entry} {e : Entry} :
    e ∈ (grouped key es).flatMap (·.2) ↔ e ∈ es := by
  rw [flatMap_grouped, mem_regroup, List.mem_eraseDups]
  exact ⟨And.left, fun he => ⟨he, List.mem_map_of_mem he⟩⟩

theorem nodup_flatMap_grouped (key : Entry → String) {es : List Entry} (h : es.Nodup) :
    ((grouped key es).flatMap (·.2)).Nodup := by
  rw [flatMap_grouped]
  exact nodup_regroup (nodup_eraseDups _) h

/-- The command of a request type, with a key of its own in the group of another key. -/
structure IsLeaf (service group key requestType : String) (c : Command) : Prop where
  name : c.name = pascalCase [service, group, key]
  alias? : c.alias? = some (Text.lower key)
  children : c.children = []
  requestType : c.requestType = some requestType
  hasRequest : c.hasRequest = true
  runnable : c.runnable = true

/-- The leaf of an entry in the group with the key `group`. Of the verb and the resource of the
entry, one is the key of the group and the other that of the leaf. -/
def LeafOf (service group : String) : Layout → Entry → Command → Prop
  | .verb, e, c => e.verb = group ∧ IsLeaf service group e.resource e.requestType c
  | .resource, e, c => e.resource = group ∧ IsLeaf service group e.verb e.requestType c

/-- The command of a group, given by its key and the entries of its leaves. -/
structure GroupOf (service : String) (layout : Layout) (g : String × List Entry) (c : Command) :
    Prop where
  name : c.name = pascalCase [service, g.1]
  alias? : c.alias? = some (Text.lower g.1)
  children : List.Forall₂ (LeafOf service g.1 layout) g.2 c.children
  requestType : c.requestType = none
  hasRequest : c.hasRequest = false
  runnable : c.runnable = false

/-- How the commands of a service come from its methods. `groups` has the key of each group with the
entries of its leaves. -/
structure Arranged (layout : Layout) (s : Service) (groups : List (String × List Entry))
    (cs : List Command) : Prop where
  commands : List.Forall₂ (GroupOf s.name layout) groups cs
  keys : (groups.map (·.1)).Nodup
  inhabited : ∀ g ∈ groups, g.2 ≠ []
  resolved : ∀ e, e ∈ groups.flatMap (·.2) ↔
    ∃ m ∈ s.methods, m.Resolves e.resource e.verb ∧ m.inputType = e.requestType
  single : ((groups.flatMap (·.2)).map fun e => (e.resource, e.verb)).Nodup
  shared : ∀ e ∈ groups.flatMap (·.2), ∀ m ∈ s.methods,
    m.Resolves e.resource e.verb → m.inputType = e.requestType
  apart : (stemsOf cs).Nodup

variable {service group : String} {layout : Layout} {e : Entry} {g : String × List Entry}
  {c : Command} {s : Service} {groups : List (String × List Entry)} {cs : List Command}

theorem leafOf_iff : LeafOf service group layout e c ↔
    e.groupKey layout = group ∧ IsLeaf service group (e.leafKey layout) e.requestType c := by
  cases layout <;> rfl

theorem leafOf_leaf (h : e.groupKey layout = group) :
    LeafOf service group layout e (e.leaf service layout) :=
  leafOf_iff.2 ⟨h, by rw [← h]; rfl, rfl, rfl, rfl, rfl, rfl⟩

theorem LeafOf.eq (h : LeafOf service group layout e c) : c = e.leaf service layout := by
  obtain ⟨rfl, h⟩ := leafOf_iff.1 h
  exact Command.ext h.name h.alias? h.children h.requestType h.hasRequest h.runnable

theorem groupOf_group (h : ∀ e ∈ g.2, e.groupKey layout = g.1) : GroupOf service layout g
    (.group (pascalCase [service, g.1]) g.1 (g.2.map (Entry.leaf service layout))) where
  name := rfl
  alias? := rfl
  children := List.forall₂_map_right_iff.2 (List.forall₂_same.2 fun e he => leafOf_leaf (h e he))
  requestType := rfl
  hasRequest := rfl
  runnable := rfl

theorem GroupOf.eq (h : GroupOf service layout g c) :
    c = .group (pascalCase [service, g.1]) g.1 (g.2.map (Entry.leaf service layout)) := by
  have hchildren : c.children = g.2.map (Entry.leaf service layout) := by
    rw [← List.forall₂_eq_eq_eq, List.forall₂_map_right_iff]
    exact h.children.flip.imp fun child e hleaf => LeafOf.eq hleaf
  exact Command.ext h.name h.alias? hchildren h.requestType h.hasRequest h.runnable

theorem Arranged.commands_eq (h : Arranged layout s groups cs) : cs = groups.map fun g =>
    .group (pascalCase [s.name, g.1]) g.1 (g.2.map (Entry.leaf s.name layout)) := by
  rw [← List.forall₂_eq_eq_eq, List.forall₂_map_right_iff]
  exact h.commands.flip.imp fun c g hgroup => hgroup.eq

theorem Arranged.keyed (h : Arranged layout s groups cs) (hg : g ∈ groups) (he : e ∈ g.2) :
    e.groupKey layout = g.1 := by
  obtain ⟨c, -, hgroup⟩ := exists_of_forall₂ h.commands hg
  obtain ⟨leaf, -, hleaf⟩ := exists_of_forall₂ hgroup.children he
  exact (leafOf_iff.1 hleaf).1

theorem arranged_of_assemble {t : VerbTable}
    (ht : VerbTable.ofEntries (resolutions s.methods) = .ok t)
    (h : assemble s.name t layout = .ok cs) :
    Arranged layout s (grouped (·.groupKey layout) (resourcewise (resolutions s.methods))) cs := by
  obtain ⟨hcs, -⟩ := assemble_eq_ok.1 h
  rw [CommandTree.commands, groups_eq_grouped ht, entries_of_ofEntries ht] at hcs
  refine ⟨?_, ?_, fun g => ne_nil_of_mem_grouped, fun e => ?_, ?_, fun e he m hm hresolves => ?_,
    assemble_stems h⟩
  · rw [hcs, List.forall₂_map_right_iff, List.forall₂_same]
    exact fun g hg => groupOf_group fun e => key_of_mem_grouped hg
  · rw [keys_grouped]
    exact nodup_eraseDups _
  · rw [mem_flatMap_grouped, mem_resourcewise, mem_resolutions]
  · refine List.Nodup.map_on ?_ (nodup_flatMap_grouped _ (nodup_resourcewise _))
    intro a ha b hb hkeys
    rw [mem_flatMap_grouped, mem_resourcewise] at ha hb
    exact ofEntries_agreeing ht a ha b hb (congrArg Prod.fst hkeys) (congrArg Prod.snd hkeys)
  · -- The method has an entry of its own, with the same resource and verb.
    rw [mem_flatMap_grouped, mem_resourcewise] at he
    have hown : ⟨e.resource, e.verb, m.inputType⟩ ∈ resolutions s.methods :=
      mem_resolutions.2 ⟨m, hm, hresolves, rfl⟩
    exact congrArg Entry.requestType (ofEntries_agreeing ht _ hown e he rfl rfl)

/-- Both layouts have the same leaves. -/
theorem Arranged.perm {layout' : Layout} {groups' : List (String × List Entry)}
    {cs' : List Command} (h : Arranged layout s groups cs)
    (h' : Arranged layout' s groups' cs') :
    (groups.flatMap (·.2)).Perm (groups'.flatMap (·.2)) :=
  (List.perm_ext_iff_of_nodup h.single.of_map h'.single.of_map).2 fun e =>
    (h.resolved e).trans (h'.resolved e).symm

end CommandTree

namespace Generation

open CommandTree

theorem registered_eq (t : VerbTable) (m : Method) :
    registered t m =
      m.entry?.elim (.ok t) fun e => t.insert e.resource e.verb e.requestType := by
  -- Overrides are at hand, so reading them never fails.
  obtain ⟨rv?, hrv⟩ : ∃ rv?, ResourceVerb.resolve (ε := Failure) m.name m.overrides.annotations =
    .ok rv? := ⟨_, rfl⟩
  rw [registered, Method.entry?, hrv]
  cases rv? <;> rfl

theorem foldlM_registered (ms : List Method) (t : VerbTable) :
    ms.foldlM registered t = (resolutions ms).foldlM
      (fun t e => t.insert e.resource e.verb e.requestType) t := by
  induction ms generalizing t with
  | nil => rfl
  | cons m ms ih =>
    rw [List.foldlM_cons, registered_eq, resolutions, List.filterMap_cons]
    cases m.entry? with
    | none => exact ih t
    | some e =>
      rw [List.foldlM_cons]
      exact congrArg _ (funext ih)

theorem commandsOf_arranged {layout : Layout} {s : Service} {cs : List Command}
    (h : commandsOf layout s = .ok cs) : ∃ groups, Arranged layout s groups cs := by
  obtain ⟨t, ht, hassemble⟩ := bind_eq_ok.1 h
  rw [foldlM_registered] at ht
  exact ⟨_, arranged_of_assemble ht hassemble⟩

/-- Each service of a run that succeeds has one leaf for each pair of a resource and a verb that its
methods resolve to, in the group that the layout says. The layout does not matter for which leaves
there are. -/
theorem generate_arranged :
    (∀ c settings r, (generate c settings).outcome = .ok r →
      List.Forall₂ (fun f g => ∃ trees sets is, Written settings f g trees sets is ∧
          List.Forall₂ (fun s cs => ∃ groups, Arranged settings.layout s groups cs)
            f.services trees)
        (c.files.filter (!·.services.isEmpty)) r.files) ∧
      ∀ s cs ds, commandsOf .verb s = .ok cs → commandsOf .resource s = .ok ds →
        ∃ byVerb byResource, Arranged .verb s byVerb cs ∧ Arranged .resource s byResource ds ∧
          (byVerb.flatMap (·.2)).Perm (byResource.flatMap (·.2)) := by
  constructor
  · intro c settings r h
    refine (generate_written h).imp fun f g hwritten => ?_
    obtain ⟨trees, sets, is, hwritten⟩ := hwritten
    exact ⟨trees, sets, is, hwritten, hwritten.commands.imp fun _ _ => commandsOf_arranged⟩
  · intro s cs ds hcs hds
    obtain ⟨byVerb, hverb⟩ := commandsOf_arranged hcs
    obtain ⟨byResource, hresource⟩ := commandsOf_arranged hds
    exact ⟨byVerb, byResource, hverb, hresource, hverb.perm hresource⟩

/-- A service with two methods for one pair, one method without a resource, and one that goes back
to an earlier resource. -/
def staff : Service where
  name := "Staff"
  fullName := "acme.Staff"
  methods :=
    [⟨"GetPerson", "acme.Staff.GetPerson", "acme.Person", {}⟩,
     ⟨"FindTeam", "acme.Staff.FindTeam", "acme.Team", { verb := some "get" }⟩,
     ⟨"Ping", "acme.Staff.Ping", "acme.Ping", {}⟩,
     ⟨"ReadPeople", "acme.Staff.ReadPeople", "acme.Person",
       { resource := some "person", verb := some "get" }⟩,
     ⟨"ListPerson", "acme.Staff.ListPerson", "acme.Filter", {}⟩]

def staffTable : VerbTable where
  resources :=
    [⟨"person", [⟨"get", "acme.Person"⟩, ⟨"list", "acme.Filter"⟩]⟩,
     ⟨"team", [⟨"get", "acme.Team"⟩]⟩]

theorem registered_staff : staff.methods.foldlM registered .empty = .ok staffTable := by
  decide +kernel

theorem commandsOf_staff (layout : Layout) :
    commandsOf layout staff = assemble "Staff" staffTable layout := by
  rw [commandsOf, registered_staff]
  rfl

/-- The commands of the staff by verb. -/
def staffByVerb : List Command :=
  [{ name := "StaffGet"
     alias? := some "get"
     children :=
      [{ name := "StaffGetPerson", alias? := some "person", requestType := some "acme.Person",
         hasRequest := true, runnable := true },
       { name := "StaffGetTeam", alias? := some "team", requestType := some "acme.Team",
         hasRequest := true, runnable := true }] },
   { name := "StaffList"
     alias? := some "list"
     children :=
      [{ name := "StaffListPerson", alias? := some "person", requestType := some "acme.Filter",
         hasRequest := true, runnable := true }] }]

/-- The commands of the staff by resource. -/
def staffByResource : List Command :=
  [{ name := "StaffPerson"
     alias? := some "person"
     children :=
      [{ name := "StaffPersonGet", alias? := some "get", requestType := some "acme.Person",
         hasRequest := true, runnable := true },
       { name := "StaffPersonList", alias? := some "list", requestType := some "acme.Filter",
         hasRequest := true, runnable := true }] },
   { name := "StaffTeam"
     alias? := some "team"
     children :=
      [{ name := "StaffTeamGet", alias? := some "get", requestType := some "acme.Team",
         hasRequest := true, runnable := true }] }]

theorem commandsOf_verb_staff : commandsOf .verb staff = .ok staffByVerb := by
  have hcommands : CommandTree.commands "Staff" staffTable .verb = staffByVerb := rfl
  have hcheck : checkCommands [] [] staffByVerb =
      .ok ["staff_list_person", "staff_list", "staff_get_team", "staff_get_person",
        "staff_get"] := by
    decide +kernel
  rw [commandsOf_staff]
  exact assemble_eq_ok.2 ⟨hcommands.symm, _, hcheck⟩

theorem commandsOf_resource_staff : commandsOf .resource staff = .ok staffByResource := by
  have hcommands : CommandTree.commands "Staff" staffTable .resource = staffByResource := rfl
  have hcheck : checkCommands [] [] staffByResource =
      .ok ["staff_team_get", "staff_team", "staff_person_list", "staff_person_get",
        "staff_person"] := by
    decide +kernel
  rw [commandsOf_staff]
  exact assemble_eq_ok.2 ⟨hcommands.symm, _, hcheck⟩

/-- Five methods make three leaves in either layout, for one has no resource and two are the
same. -/
theorem generate_arranged_staff :
    (∃ r, (generate twins {}).outcome = .ok r ∧
      List.Forall₂ (fun f g => ∃ trees sets is, Written {} f g trees sets is ∧
          List.Forall₂ (fun s cs => ∃ groups, Arranged .verb s groups cs) f.services trees)
        [twinFile] r.files) ∧
      commandsOf .verb staff = .ok staffByVerb ∧ commandsOf .resource staff = .ok staffByResource ∧
      ∃ byVerb byResource, Arranged .verb staff byVerb staffByVerb ∧
        Arranged .resource staff byResource staffByResource ∧
        (byVerb.flatMap (·.2)).Perm (byResource.flatMap (·.2)) := by
  obtain ⟨r, -, hr, -, -⟩ := generate_twins
  obtain ⟨hwritten, hsame⟩ := generate_arranged
  exact ⟨⟨r, hr, hwritten twins {} r hr⟩, commandsOf_verb_staff, commandsOf_resource_staff,
    hsame staff staffByVerb staffByResource commandsOf_verb_staff commandsOf_resource_staff⟩

end Generation

end ServiceCli
