import ServiceCli.Proofs.Flag.Interruption
import ServiceCli.Proofs.Generation.Sets

/-!
The reserved flag. A run fails on account of it at the first method whose request type has a field
of that name, whether or not the method has a resource and a verb and so a command.
-/
namespace ServiceCli.Generation

open Flattener (Served ArisesIn Called)

variable {c : Catalog} {settings : Settings} {f : ServiceFile} {s : Service} {m : Method}
  {flags flags' : Flags} {message : String}

theorem registered_eq_error {t : VerbTable} {e : Failure} (h : registered t m = .error e) :
    ∃ resource verb existing conflicting,
      e = .verbCollision resource verb existing conflicting := by
  rw [registered_eq] at h
  cases hentry : m.entry? with
  | none =>
    rw [hentry] at h
    cases h
  | some entry =>
    rw [hentry, Option.elim_some, VerbTable.insert_eq] at h
    split at h
    · split at h
      · cases h
      · exact ⟨_, _, _, _, (Except.error.inj h).symm⟩
    · cases h

theorem flatten_ne_reserved (flattener : Flattener) (name : String) :
    (flattener.flatten c name).result ≠ .error (.reservedFlag message) := by
  intro h
  obtain h | ⟨a, ha⟩ := Flattener.exists_arisesIn h
  · cases h
  · exact ha.elim

/-- A file that a run comes to can only fail to be written because sets of flags share a
function. -/
theorem Comes.eq_of_failure {α : Type} {nameOf : String → String} {write : FilePlan → Except Stop α}
    {fs : List ServiceFile} {flattener : Flattener} {p : FilePlan} {e : Failure}
    (h : Comes c settings nameOf write fs flattener f p)
    (hitems : Source.items p = .error (.failure e)) :
    ∃ first second function, e = .codeGeneration (.sharedFunction first second function) := by
  obtain ⟨n, hn⟩ | ⟨first, second, function, hshared⟩ := Source.items_stop h.known hitems
  · cases hn
  · exact ⟨first, second, function, Stop.failure.inj hshared⟩

/-- A run comes to the flags of a method: all before it is done and the method is registered. -/
def Meets (c : Catalog) (settings : Settings) (f : ServiceFile) (s : Service) (m : Method)
    (flags : Flags) : Prop :=
  ∃ flattener flags₁ t t',
    AtFile c settings Source.fileName generatedFile c.files {} f flattener ∧
    AtService c settings.layout f.services ⟨flattener, .empty⟩ s flags₁ ∧
    AtMethod c s.methods (.empty, flags₁) m t flags ∧ registered t m = .ok t'

theorem Meets.kept (h : Meets c settings f s m flags) : flags.Kept c := by
  obtain ⟨flattener, flags₁, t, t', hf, hs, hm, -⟩ := h
  exact hm.kept (hs.kept (.empty (hf.served .fresh)))

theorem Meets.mem (h : Meets c settings f s m flags) :
    f ∈ c.files ∧ s ∈ f.services ∧ m ∈ s.methods := by
  obtain ⟨flattener, flags₁, t, t', ⟨-, _, _, _, hf, -⟩, ⟨_, _, _, hs, -⟩, ⟨_, _, hm, -⟩, -⟩ := h
  exact ⟨by simp [hf], by simp [hs], by simp [hm]⟩

/-- A run fails in gathering the flags of a method, unless verbs collide, commands have one name or
sets of flags share a function. -/
theorem meets_of_failure {e : Failure} (h : (generate c settings).outcome = .error (.failure e)) :
    (∃ f s m flags, Meets c settings f s m flags ∧
      (gather c flags m).outcome = .error (.failure e)) ∨
    (∃ resource verb existing conflicting,
      e = .verbCollision resource verb existing conflicting) ∨
    (∃ name, e = .duplicateCommand name) ∨
    ∃ first second function, e = .codeGeneration (.sharedFunction first second function) := by
  obtain ⟨f, flattener, hf, hplan | ⟨p, flattener', hplan, hwrite⟩⟩ :=
    files_eq_error.1 (generate_eq_error.1 h)
  · obtain ⟨s, flags₁, hs, hservice⟩ := services_eq_error.1 (plan_eq_error.1 hplan)
    obtain hmethods | ⟨t, -, -, hassemble⟩ := service_eq_error.1 hservice
    · obtain ⟨m, t, flags, hm, hregister | ⟨⟨t', ht'⟩, hgather⟩⟩ := methods_eq_error.1 hmethods
      · obtain ⟨e', he', heq⟩ := orStop_eq_error.1 hregister
        obtain rfl := Stop.failure.inj heq
        exact .inr (.inl (registered_eq_error he'))
      · exact .inl ⟨f, s, m, flags, ⟨flattener, flags₁, t, t', hf, hs, hm, ht'⟩, hgather⟩
    · obtain ⟨e', he', heq⟩ := orStop_eq_error.1 hassemble
      obtain rfl := Stop.failure.inj heq
      exact .inr (.inr (.inl (CommandTree.assemble_eq_error he')))
  · have hcomes := comes_iff.2 ⟨flattener, hf, flattener', hplan⟩
    exact .inr (.inr (.inr (hcomes.eq_of_failure (generatedFile_eq_error.1 hwrite))))

/-- The failure arises in gathering the flags of a method, and nowhere else. -/
theorem generate_eq_reserved_of_gather :
    (generate c settings).outcome = .error (.failure (.reservedFlag message)) ↔
      ∃ f s m flags, Meets c settings f s m flags ∧
        (gather c flags m).outcome = .error (.failure (.reservedFlag message)) := by
  constructor
  · intro h
    obtain hmeets | ⟨_, _, _, _, heq⟩ | ⟨_, heq⟩ | ⟨_, _, _, heq⟩ := meets_of_failure h
    · exact hmeets
    all_goals cases heq
  · rw [generate_eq_error, files_eq_error]
    rintro ⟨f, s, m, flags, ⟨flattener, flags₁, t, t', hf, hs, hm, ht'⟩, hgather⟩
    have hmethods := methods_eq_error.2 ⟨m, t, flags, hm, .inr ⟨⟨t', ht'⟩, hgather⟩⟩
    have hservices := services_eq_error.2 ⟨s, flags₁, hs, service_eq_error.2 (.inl hmethods)⟩
    exact ⟨f, flattener, hf, .inl (plan_eq_error.2 hservices)⟩

/-- The flags of a request type stop a run as reserved if they can be found and the request type has
a field of that name. -/
theorem Flags.Kept.gather_eq_reserved (h : flags.Kept c) :
    (Generation.gather c flags m).outcome = .error (.failure (.reservedFlag message)) ↔
      (∃ x, (flags.flattener.flatten c m.inputType).result = .ok x) ∧
        ∃ type, c.message? m.inputType = some type ∧ type.fullName = message ∧ type.Reserves := by
  have hcalled := Called.of_served h.served
  have htitle : ∀ x, (flags.flattener.flatten c m.inputType).result = .ok x →
      ∃ type, c.message? m.inputType = some type ∧ x.fullName = type.fullName := by
    intro x hok
    obtain ⟨type, htype, -, hname⟩ := (h.served.call hok).titled _ x (Flattener.get?_of_ok hok)
    exact ⟨type, htype, hname⟩
  rw [gather_eq_error]
  constructor
  · rintro ⟨-, ⟨e, he, heq⟩ | ⟨x, hok, hreserved, heq⟩⟩
    · cases heq
      exact absurd he (flatten_ne_reserved _ _)
    · cases heq
      obtain ⟨type, htype, hname⟩ := htitle x hok
      obtain ⟨type', htype', hreserves⟩ :=
        (Flattener.contains_requestFlag_iff hcalled hok).1 hreserved
      obtain rfl := Option.some.inj (htype.symm.trans htype')
      exact ⟨⟨x, hok⟩, type, htype, hname.symm, hreserves⟩
  · rintro ⟨⟨x, hok⟩, type, htype, rfl, hreserves⟩
    have hreserved := (Flattener.contains_requestFlag_iff hcalled hok).2 ⟨type, htype, hreserves⟩
    obtain ⟨type', htype', hname⟩ := htitle x hok
    obtain rfl := Option.some.inj (htype.symm.trans htype')
    exact ⟨h.not_contains hok hreserved, .inr ⟨x, hok, hreserved, by rw [hname]⟩⟩

theorem generate_eq_reserved :
    (generate c settings).outcome = .error (.failure (.reservedFlag message)) ↔
      ∃ f s m flags, Meets c settings f s m flags ∧
        (∃ x, (flags.flattener.flatten c m.inputType).result = .ok x) ∧
        ∃ type, c.message? m.inputType = some type ∧ type.fullName = message ∧
          type.Reserves := by
  rw [generate_eq_reserved_of_gather]
  constructor
  · rintro ⟨f, s, m, flags, hmeets, hgather⟩
    exact ⟨f, s, m, flags, hmeets, hmeets.kept.gather_eq_reserved.1 hgather⟩
  · rintro ⟨f, s, m, flags, hmeets, htype⟩
    exact ⟨f, s, m, flags, hmeets, hmeets.kept.gather_eq_reserved.2 htype⟩

/-- A run fails on account of the reserved flag if and only if it comes to a method whose request
type has a field of that name, and can find the flags of the request type. The method need not have
a resource and a verb, and no run with such a method succeeds. -/
theorem generate_reserved (c : Catalog) (settings : Settings) (message : String) :
    ((generate c settings).outcome = .error (.failure (.reservedFlag message)) ↔
      ∃ f s m flags, Meets c settings f s m flags ∧
        (∃ x, (flags.flattener.flatten c m.inputType).result = .ok x) ∧
        ∃ type, c.message? m.inputType = some type ∧ type.fullName = message ∧
          type.Reserves) ∧
      (c.Keyed → (generate c settings).outcome = .error (.failure (.reservedFlag message)) →
        ∃ f ∈ c.files, ∃ s ∈ f.services, ∃ m ∈ s.methods, m.inputType = message ∧
          ∃ type, c.message? message = some type ∧ type.Reserves) ∧
      ((∃ f ∈ c.files, ∃ s ∈ f.services, ∃ m ∈ s.methods, ∃ type,
          c.message? m.inputType = some type ∧ type.Reserves) →
        ∃ stop, (generate c settings).outcome = .error stop) := by
  refine ⟨generate_eq_reserved, fun hkeyed h => ?_, ?_⟩
  · obtain ⟨f, s, m, flags, hmeets, -, type, htype, hname, hreserves⟩ := generate_eq_reserved.1 h
    obtain ⟨hf, hs, hm⟩ := hmeets.mem
    have hinput : m.inputType = message := (hkeyed _ _ htype).symm.trans hname
    exact ⟨f, hf, s, hs, m, hm, hinput, type, hinput ▸ htype, hreserves⟩
  · rintro ⟨f, hf, s, hs, m, hm, type, htype, hreserves⟩
    cases hgenerate : (generate c settings).outcome with
    | error stop => exact ⟨stop, rfl⟩
    | ok r =>
      obtain ⟨p, hp⟩ := exists_reached hgenerate hf (by simp [List.ne_nil_of_mem hs])
      exact absurd hreserves (Comes.not_reserves hp .fresh hs hm htype)

/-- A method whose name is one word, so that it has neither a resource nor a verb. -/
def ping : Method := ⟨"Ping", "acme.Raw.Ping", "acme.Q", {}⟩

def rawService : Service := ⟨"Raw", "acme.Raw", [ping]⟩

def rawFile : ServiceFile := ⟨"acme.proto", [rawService]⟩

def rawRequest : MessageType := ⟨"Q", "acme.Q", [⟨"request", .scalar .string, false⟩]⟩

def raw : Catalog where
  files := [rawFile]
  messages.entries := [("acme.Q", rawRequest)]
  messages.ascending := by decide

theorem resolve_ping :
    ResourceVerb.resolve (ε := Failure) ping.name ping.overrides.annotations = .ok none := by
  decide +kernel

theorem rawRequest_reserves : rawRequest.Reserves :=
  ⟨⟨"request", .scalar .string, false⟩, List.mem_cons_self, _, .scalar, by decide +kernel⟩

theorem meets_raw : Meets raw {} rawFile rawService ping ⟨{}, .empty⟩ := by
  have hregistered : registered .empty ping = .ok .empty := by
    rw [registered, resolve_ping]
    rfl
  exact ⟨{}, ⟨{}, .empty⟩, .empty, .empty, ⟨by decide, [], [], [], rfl, rfl⟩,
    ⟨[], [], [], rfl, rfl⟩, ⟨[], [], rfl, rfl⟩, hregistered⟩

theorem flatten_raw : (({} : Flattener).flatten raw "acme.Q").result =
    .ok ⟨"Q", "acme.Q", .ofList [("request", ⟨.string, false⟩)]⟩ := by
  cbv

/-- The run fails on account of the only method, and the message that it names is the request type
of this method. -/
theorem generate_reserved_raw :
    (generate raw {}).outcome = .error (.failure (.reservedFlag "acme.Q")) ∧
      ∃ f ∈ raw.files, ∃ s ∈ f.services, ∃ m ∈ s.methods, m.inputType = "acme.Q" := by
  obtain ⟨hiff, hmethod, -⟩ := generate_reserved raw {} "acme.Q"
  have hfails := hiff.2 ⟨rawFile, rawService, ping, _, meets_raw, ⟨_, flatten_raw⟩, rawRequest, rfl,
    rfl, rawRequest_reserves⟩
  have hkeyed : raw.Keyed := by
    intro name m hm
    have hentry := NameMap.get?_eq_some_iff.1 hm
    simp only [raw, List.mem_singleton, Prod.mk.injEq] at hentry
    rw [hentry.1, hentry.2]
    rfl
  obtain ⟨f, hf, s, hs, m, hm, hinput, -⟩ := hmethod hkeyed hfails
  exact ⟨hfails, f, hf, s, hs, m, hm, hinput⟩

/-- A run can fail on account of a request type that no method with a resource and a verb has. -/
theorem generate_raw_unresolved : ¬∀ (c : Catalog) (settings : Settings) (message : String),
    (generate c settings).outcome = .error (.failure (.reservedFlag message)) →
      ∃ f ∈ c.files, ∃ s ∈ f.services, ∃ m ∈ s.methods,
        (∃ resource verb, m.Resolves resource verb) ∧ m.inputType = message := by
  intro h
  obtain ⟨f, hf, s, hs, m, hm, ⟨resource, verb, hresolves⟩, -⟩ := h raw {} "acme.Q"
    (generate_eq_reserved.2 ⟨rawFile, rawService, ping, _, meets_raw, ⟨_, flatten_raw⟩, rawRequest,
      rfl, rfl, rawRequest_reserves⟩)
  obtain rfl := List.mem_singleton.1 hf
  obtain rfl := List.mem_singleton.1 hs
  obtain rfl := List.mem_singleton.1 hm
  rw [Method.Resolves, resolve_ping] at hresolves
  cases hresolves

end ServiceCli.Generation
