import ServiceCli.Proofs.Flag.History

/-!
Which message types have their fields gone through. No message type has twice, and if no flattening
fails these are the message types that can be reached from those that were asked for.
-/
namespace ServiceCli.Flattener

variable {c : Catalog} {active : List String} {start message name : String}
  {memo more : NameMap FlagSchema} {names others : List String} {p q r : Progress} {s : Flattener}

/-- The message types whose fields are gone through, in order. -/
def walked (events : List Event) : List String :=
  events.filterMap fun
    | .flattening name => some name
    | _ => none

@[simp] theorem walked_append (events later : List Event) :
    walked (events ++ later) = walked events ++ walked later :=
  List.filterMap_append

@[simp] theorem walked_flattening (name : String) : walked [.flattening name] = [name] := rfl

@[simp] theorem walked_mapSkipped (message field : String) :
    walked [.mapSkipped message field] = [] := rfl

@[simp] theorem walked_recursionSkipped (message field embedded : String) :
    walked [.recursionSkipped message field embedded] = [] := rfl

/-- Embeddings lead from `start` to the message types in `names`, each of which is gone through
once, and nothing else is newly remembered. -/
structure Walks (c : Catalog) (start : String) (memo more : NameMap FlagSchema)
    (names : List String) : Prop where
  distinct : names.Nodup
  fresh : ∀ a ∈ names, memo.get? a = none
  reached : ∀ a ∈ names, c.Reaches start a
  origin : ∀ a, more.contains a = true → memo.contains a = true ∨ a ∈ names

theorem Walks.nil (c : Catalog) (start : String) (memo : NameMap FlagSchema) :
    Walks c start memo memo [] where
  distinct := List.nodup_nil
  fresh := by simp
  reached := by simp
  origin _ := .inl

/-- What is gone through after `names` is none of them if all of these are remembered. -/
theorem Walks.append {most : NameMap FlagSchema} (h : Walks c start memo more names)
    (h' : Walks c start more most others) (hgrows : Grows memo more)
    (hnames : ∀ a ∈ names, more.contains a = true) :
    Walks c start memo most (names ++ others) where
  distinct := by
    refine List.nodup_append.2 ⟨h.distinct, h'.distinct, ?_⟩
    rintro a ha _ hb rfl
    have hknown := hnames a ha
    simp [NameMap.contains, h'.fresh a hb] at hknown
  fresh := by
    refine List.forall_mem_append.2 ⟨h.fresh, fun a ha => ?_⟩
    by_contra hsome
    obtain ⟨schema, hschema⟩ := Option.ne_none_iff_exists'.1 hsome
    have hnone := h'.fresh a ha
    rw [hgrows a schema hschema] at hnone
    cases hnone
  reached := List.forall_mem_append.2 ⟨h.reached, h'.reached⟩
  origin a ha := by
    rw [List.mem_append, ← or_assoc]
    exact (h'.origin a ha).imp (h.origin a) id

/-- Going through the fields of `name` itself comes before going through those of what it embeds. -/
theorem Walks.enter (h : Walks c name memo more names) (hstart : c.Reaches start name)
    (hnone : memo.get? name = none) (hname : name ∉ names) :
    Walks c start memo more (name :: names) where
  distinct := List.nodup_cons.2 ⟨hname, h.distinct⟩
  fresh := List.forall_mem_cons.2 ⟨hnone, h.fresh⟩
  reached := List.forall_mem_cons.2 ⟨hstart, fun a ha => hstart.trans (h.reached a ha)⟩
  origin a ha := (h.origin a ha).imp id (List.mem_cons_of_mem _)

theorem Walks.insert {schema : FlagSchema} (h : Walks c start memo more names)
    (hname : name ∈ names) : Walks c start memo (more.insert name schema) names where
  distinct := h.distinct
  fresh := h.fresh
  reached := h.reached
  origin a ha := by
    rcases (NameMap.contains_insert more name a schema).1 ha with rfl | ha
    · exact .inr hname
    · exact h.origin a ha

/-- Going on from `p` to `q` goes through `names`. They are announced and counted, and none of them
is marked. -/
structure Goes (c : Catalog) (active : List String) (start : String) (p q : Progress)
    (names : List String) : Prop where
  walks : Walks c start p.compiled q.compiled names
  announced : walked q.events = walked p.events ++ names
  counted : q.walks = p.walks + names.length
  spared : ∀ a ∈ names, a ∉ active

theorem Goes.of_same (hcompiled : q.compiled = p.compiled) (hwalks : q.walks = p.walks)
    (hevents : walked q.events = walked p.events) : Goes c active start p q [] where
  walks := hcompiled ▸ .nil c start p.compiled
  announced := by rw [hevents, List.append_nil]
  counted := hwalks
  spared := by simp

theorem Goes.enter {marked : List String} (h : Goes c marked name (p.started name) q names)
    (hname : name ∈ marked)
    (hmarked : ∀ a ∈ active, a ∈ marked) (hactive : name ∉ active) (hstart : c.Reaches start name)
    (hnone : p.compiled.get? name = none) : Goes c active start p q (name :: names) where
  walks := h.walks.enter hstart hnone fun hmem => h.spared name hmem hname
  announced := by simpa [Progress.started, Progress.note] using h.announced
  counted := by
    rw [h.counted, List.length_cons, Nat.add_comm names.length, ← Nat.add_assoc]
    rfl
  spared := List.forall_mem_cons.2 ⟨hactive, fun a ha hmem => h.spared a ha (hmarked a hmem)⟩

theorem Goes.append (h : Goes c active start p q names) (h' : Goes c active start q r others)
    (hgrows : Grows p.compiled q.compiled) (hnames : ∀ a ∈ names, q.compiled.contains a = true) :
    Goes c active start p r (names ++ others) where
  walks := h.walks.append h'.walks hgrows hnames
  announced := by rw [h'.announced, h.announced, List.append_assoc]
  counted := by rw [h'.counted, h.counted, List.length_append, Nat.add_assoc]
  spared := List.forall_mem_append.2 ⟨h.spared, h'.spared⟩

/-- Whatever fields go through is remembered unless they fail. -/
theorem goes_traversal :
    (∀ active message f p, FieldsOf c message [f] → ∃ names,
      Goes c active message p (fieldFlags c active message f p).2 names ∧
      ∀ new, (fieldFlags c active message f p).1 = .ok new → ∀ a ∈ names,
        (fieldFlags c active message f p).2.compiled.contains a = true) ∧
    ∀ active message fs flags p, FieldsOf c message fs → ∃ names,
      Goes c active message p (flattenFields c active message fs flags p).2 names ∧
      ∀ all, (flattenFields c active message fs flags p).1 = .ok all → ∀ a ∈ names,
        (flattenFields c active message fs flags p).2.compiled.contains a = true := by
  apply traversal
    (P := fun active message f p out => FieldsOf c message [f] → ∃ names,
      Goes c active message p out.2 names ∧
      ∀ new, out.1 = .ok new → ∀ a ∈ names, out.2.compiled.contains a = true)
    (Q := fun active message fs _ p out => FieldsOf c message fs → ∃ names,
      Goes c active message p out.2 names ∧
      ∀ all, out.1 = .ok all → ∀ a ∈ names, out.2.compiled.contains a = true)
  case flag | unsupported | known | unknown | nil =>
    intros
    exact ⟨[], .of_same rfl rfl rfl, by simp⟩
  case silent =>
    intro active message f p q _ hq hwalks hevents _
    refine ⟨[], .of_same hq hwalks ?_, by simp⟩
    rcases hevents with hevents | hevents <;> simp [hevents]
  case cut =>
    intro active message f p q name _ _ hq hwalks hevents _
    exact ⟨[], .of_same hq hwalks (by simp [hevents]), by simp⟩
  case interrupted =>
    intro active message f p name m e q h hactive hnone hm _ ih hf
    obtain ⟨names, hgoes, -⟩ := ih (.of_message hm)
    exact ⟨name :: names, hgoes.enter List.mem_cons_self (fun _ => List.mem_cons_of_mem _) hactive
      (.single (hf.embeds h)) hnone, by simp⟩
  case walked =>
    intro active message f p name m flags q h hactive hnone hm _ ih hf
    obtain ⟨names, hgoes, hknown⟩ := ih (.of_message hm)
    have henter := hgoes.enter List.mem_cons_self (fun _ => List.mem_cons_of_mem _) hactive
      (.single (hf.embeds h)) hnone
    refine ⟨name :: names, ⟨henter.walks.insert List.mem_cons_self, henter.announced,
      henter.counted, henter.spared⟩, fun _ _ a ha => ?_⟩
    exact (NameMap.contains_insert ..).2 ((List.mem_cons.1 ha).imp id (hknown flags rfl a))
  case failed =>
    intro active message f fs flags p e q ih hfs
    obtain ⟨names, hgoes, -⟩ := ih hfs.head
    exact ⟨names, hgoes, by simp⟩
  case collision =>
    intro active message f fs flags p new q path ih _ hfs
    obtain ⟨names, hgoes, -⟩ := ih hfs.head
    exact ⟨names, hgoes, by simp⟩
  case cons =>
    intro active message f fs flags p new q more out hfield ih _ hrest ihs hfs
    have hgrows := (extends_traversal (c := c).1 active message f p).grows
    have hmore := (extends_traversal (c := c).2 active message fs more q).grows
    rw [hfield] at hgrows
    rw [hrest] at hmore
    obtain ⟨names, hgoes, hknown⟩ := ih hfs.head
    obtain ⟨others, hgoes', hknown'⟩ := ihs hfs.tail
    refine ⟨names ++ others, hgoes.append hgoes' hgrows (hknown new rfl), fun all hall => ?_⟩
    exact List.forall_mem_append.2
      ⟨fun a ha => hmore.contains (hknown new rfl a ha), hknown' all hall⟩

/-- Whatever happened before, a flattening goes through no message type twice, nor through one that
is remembered. Unless it fails it remembers all that it goes through. -/
theorem walks_flatten (c : Catalog) (s : Flattener) (name : String) :
    Walks c name s.compiled (s.flatten c name).flattener.compiled
        (walked (s.flatten c name).events) ∧
      (s.flatten c name).flattener.walks =
        s.walks + (walked (s.flatten c name).events).length ∧
      ∀ schema, (s.flatten c name).result = .ok schema → ∀ a ∈ walked (s.flatten c name).events,
        (s.flatten c name).flattener.compiled.contains a = true := by
  cases hmemo : s.compiled.get? name with
  | some schema =>
    rw [flatten_of_known hmemo]
    exact ⟨.nil c name s.compiled, rfl, by simp [walked]⟩
  | none =>
    cases hm : c.message? name with
    | none =>
      rw [flatten_of_unknown hmemo hm]
      exact ⟨.nil c name s.compiled, rfl, by simp [walked]⟩
    | some m =>
      obtain ⟨names, hgoes, hknown⟩ := goes_traversal.2 (s.marks name) name m.fields .empty
        (s.begun name) (.of_message hm)
      have henter : Goes c [] name ⟨s.compiled, s.walks, []⟩ _ (name :: names) :=
        hgoes.enter (mem_marks.2 (.inl rfl)) (by simp) List.not_mem_nil .refl hmemo
      obtain ⟨i, q, hrun, hflatten⟩ | ⟨flags, q, hrun, hflatten⟩ := flatten_of_new hmemo hm
      · rw [hrun] at henter
        rw [hflatten]
        have hevents : walked q.events = name :: names := henter.announced
        exact ⟨hevents ▸ henter.walks, hevents ▸ henter.counted, by simp⟩
      · rw [hrun] at henter hknown
        rw [hflatten]
        have hevents : walked q.events = name :: names := henter.announced
        refine ⟨hevents ▸ henter.walks.insert List.mem_cons_self, hevents ▸ henter.counted,
          fun _ _ a ha => ?_⟩
        rw [hevents] at ha
        exact (NameMap.contains_insert ..).2 ((List.mem_cons.1 ha).imp id (hknown flags rfl a))

/-- The states that flattenings lead to none of which failed, with the message types that were asked
for, their answers and what happened. -/
inductive Serves (c : Catalog) : List (String × FlagSchema) → Flattener → List Event → Prop where
  | fresh : Serves c [] {} []
  | call {calls : List (String × FlagSchema)} {s : Flattener} {events : List Event}
      {name : String} {schema : FlagSchema} : Serves c calls s events →
      (s.flatten c name).result = .ok schema →
      Serves c (calls ++ [(name, schema)]) (s.flatten c name).flattener
        (events ++ (s.flatten c name).events)

variable {calls : List (String × FlagSchema)} {events : List Event}

theorem Serves.served (h : Serves c calls s events) : Served c s := by
  induction h with
  | fresh => exact .fresh
  | call _ hok ih => exact ih.call hok

/-- All that was asked for is remembered with its answer. -/
theorem Serves.get?_of_mem (h : Serves c calls s events) :
    ∀ e ∈ calls, s.compiled.get? e.1 = some e.2 := by
  induction h with
  | fresh => simp
  | @call calls s events name schema _ hok ih =>
    refine List.forall_mem_append.2 ⟨fun e he => grows_flatten s name e.1 e.2 (ih e he), ?_⟩
    simpa using get?_of_ok hok

/-- What is remembered has been gone through once, and was reached from something asked for. -/
structure Tally (c : Catalog) (calls : List (String × FlagSchema)) (s : Flattener)
    (events : List Event) : Prop where
  counted : s.walks = (walked events).length
  distinct : (walked events).Nodup
  known : ∀ a, s.compiled.contains a = true ↔ a ∈ walked events
  reached : ∀ a ∈ walked events, ∃ e ∈ calls, c.Reaches e.1 a

theorem Tally.call {schema : FlagSchema} (h : Tally c calls s events)
    (hok : (s.flatten c name).result = .ok schema) :
    Tally c (calls ++ [(name, schema)]) (s.flatten c name).flattener
      (events ++ (s.flatten c name).events) := by
  obtain ⟨hwalks, hcounted, hknown⟩ := walks_flatten c s name
  have hgrows := grows_flatten (c := c) s name
  constructor
  case counted => rw [hcounted, h.counted, walked_append, List.length_append]
  case distinct =>
    rw [walked_append, List.nodup_append]
    refine ⟨h.distinct, hwalks.distinct, ?_⟩
    rintro a ha _ hb rfl
    have hold := (h.known a).2 ha
    simp [NameMap.contains, hwalks.fresh a hb] at hold
  case known =>
    intro a
    rw [walked_append, List.mem_append, ← h.known]
    exact ⟨hwalks.origin a, Or.rec hgrows.contains (hknown schema hok a)⟩
  case reached =>
    intro a ha
    rw [walked_append] at ha
    rcases List.mem_append.1 ha with ha | ha
    · obtain ⟨e, he, hreaches⟩ := h.reached a ha
      exact ⟨e, List.mem_append_left _ he, hreaches⟩
    · exact ⟨(name, schema), by simp, hwalks.reached a ha⟩

theorem Serves.tally (h : Serves c calls s events) : Tally c calls s events := by
  induction h with
  | fresh => exact ⟨rfl, List.nodup_nil, by simp [NameMap.contains, walked], by simp [walked]⟩
  | call _ hok ih => exact ih.call hok

theorem Serves.contains_iff (h : Serves c calls s events) (a : String) :
    s.compiled.contains a = true ↔ ∃ e ∈ calls, c.Reaches e.1 a := by
  constructor
  · exact fun ha => h.tally.reached a ((h.tally.known a).1 ha)
  · rintro ⟨e, he, hreaches⟩
    exact h.served.closed.reaches (NameMap.contains_iff.2 ⟨e.2, h.get?_of_mem e he⟩) hreaches

/-- After flattenings none of which failed, nothing is in progress. What can be reached from the
message types that were asked for is remembered, and nothing else is. Each of these has been gone
through once. Asking again for any of them gives the same answer and changes nothing. -/
theorem flatten_walks_once (c : Catalog) (calls : List (String × FlagSchema)) (s : Flattener)
    (events : List Event) (h : Serves c calls s events) :
    s.inProgress = [] ∧
    (∀ a, s.compiled.contains a = true ↔ ∃ e ∈ calls, c.Reaches e.1 a) ∧
    s.walks = Set.ncard {a | ∃ e ∈ calls, c.Reaches e.1 a} ∧
    ((walked events).Nodup ∧ ∀ a, a ∈ walked events ↔ ∃ e ∈ calls, c.Reaches e.1 a) ∧
    ∀ e ∈ calls, s.flatten c e.1 = ⟨.ok e.2, s, []⟩ := by
  have hmem : ∀ a, a ∈ walked events ↔ ∃ e ∈ calls, c.Reaches e.1 a :=
    fun a => (h.tally.known a).symm.trans (h.contains_iff a)
  refine ⟨h.served.idle, h.contains_iff, ?_, ⟨h.tally.distinct, hmem⟩,
    fun e he => flatten_of_known (h.get?_of_mem e he)⟩
  have hset : {a | ∃ e ∈ calls, c.Reaches e.1 a} = ((walked events).toFinset : Set String) := by
    ext a
    simp [hmem]
  rw [hset, Set.ncard_coe_finset, List.toFinset_card_of_nodup h.tally.distinct, h.tally.counted]

theorem kinship_reaches_from_person {a : String} (h : kinship.Reaches "acme.Person" a) :
    a = "acme.Company" ∨ a = "acme.Person" := by
  obtain rfl | ⟨b, hstep, hb⟩ := h.cases_head
  · exact .inr rfl
  · obtain rfl : b = "acme.Company" := by simpa using kinship_embeds hstep
    exact kinship_reaches hb

/-- A person is asked for, then the company that embeds it back, then the person again. Each of the
two is gone through once. -/
theorem kinship_walks_once : ∃ calls s events, Serves kinship calls s events ∧
    calls.map (·.1) = ["acme.Person", "acme.Company", "acme.Person"] ∧ s.walks = 2 := by
  have htwo := (Serves.fresh.call kinship_person).call kinship_company_after_person
  obtain ⟨-, -, -, -, hagain⟩ := flatten_walks_once kinship _ _ _ htwo
  have hperson := congrArg Answer.result (hagain _ List.mem_cons_self)
  have hthree := htwo.call hperson
  obtain ⟨-, -, hwalks, -⟩ := flatten_walks_once kinship _ _ _ hthree
  refine ⟨_, _, _, hthree, rfl, hwalks.trans ?_⟩
  rw [← Set.ncard_pair (show "acme.Company" ≠ "acme.Person" by decide)]
  congr 1
  ext a
  constructor
  · rintro ⟨e, he, hreaches⟩
    simp only [List.cons_append, List.nil_append, List.mem_cons, List.not_mem_nil, or_false] at he
    rcases he with rfl | rfl | rfl
    · exact kinship_reaches_from_person hreaches
    · exact kinship_reaches hreaches
    · exact kinship_reaches_from_person hreaches
  · rintro (rfl | rfl)
    · exact ⟨_, List.mem_cons_of_mem _ List.mem_cons_self, .refl⟩
    · exact ⟨_, List.mem_cons_self, .refl⟩

end ServiceCli.Flattener
