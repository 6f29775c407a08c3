import ServiceCli.Proofs.Flag.Agreement
import ServiceCli.Proofs.Flag.Coverage

/-!
Whether the flags of a message type depend on what was flattened before. They do not where no two
message types with flags reach each other. Of two that do, the one that is flattened inside the
other has no flags that come by way of the other.
-/
namespace ServiceCli.Flattener

open Catalog (Legible Plain)

variable {c : Catalog} {a b name : String} {s : Flattener}

/-- Whatever was flattened before, the message type has the same flags. -/
def Steady (c : Catalog) (name : String) : Prop :=
  ∀ s t x y, Served c s → Served c t → (s.flatten c name).result = .ok x →
    (t.flatten c name).result = .ok y → x = y

theorem steady_of_untangled (hname : c.Untangled name) : Steady c name := by
  intro s t x y hs ht hx hy
  have hrun : ∀ {s : Flattener} {x : FlagSchema}, Served c s → (s.flatten c name).result = .ok x →
      (c.expandMessage c.passesOver name).run = some (.ok x) := by
    intro s x hs hx
    obtain h | ⟨-, e, he⟩ := hs.agrees c.breaks_untangled hname
    · rw [h, hx]
    · rw [hx] at he
      cases he
  have heq := (hrun hs hx).symm.trans (hrun ht hy)
  exact Except.ok.inj (Option.some.inj heq)

/-- Whatever can be reached from a message type that was flattened is remembered. -/
theorem Served.contains_of_reaches {b : String} {schema : FlagSchema} (hs : Served c s)
    (hok : (s.flatten c name).result = .ok schema) (hb : c.Reaches name b) :
    (s.flatten c name).flattener.compiled.contains b = true :=
  (hs.call hok).closed.reaches (NameMap.contains_iff.2 ⟨schema, get?_of_ok hok⟩) hb

/-- A message type that is flattened inside another one has no flags that come by way of the other
one. -/
theorem offered_of_inside {x : FlagSchema} (hne : a ≠ b) (hab : c.Reaches a b)
    (hok : (({} : Flattener).flatten c a).result = .ok x) :
    ∃ y, ((({} : Flattener).flatten c a).flattener.flatten c b).result = .ok y ∧
      ∀ path, y.flags.contains path → Offered c (· = a) b path := by
  obtain ⟨y, hy⟩ := NameMap.contains_iff.1 (Served.fresh.contains_of_reaches hok hab)
  refine ⟨y, by rw [flatten_of_known hy], ?_⟩
  obtain ⟨m, flags, q, hm, hrun, h⟩ := fresh_ok hok
  obtain ⟨hq, -⟩ := sourced_traversal.2 [a] a m.fields .empty (begun {} a)
    (fun _ h => List.mem_singleton.2 h) (.of_message hm) (.empty c (· = a))
  rw [hrun] at hq
  rw [h] at hy
  exact hq b y ((NameMap.get?_insert_of_ne q.compiled _ hne.symm).symm.trans hy)

/-- The message type that is flattened first takes over its own flags and those that are remembered
of whatever else it embeds. -/
theorem fresh_field {x : FlagSchema} {m : MessageType} {f : Field}
    (hok : (({} : Flattener).flatten c a).result = .ok x) (hm : c.message? a = some m)
    (hf : f ∈ m.fields) :
    (∀ type, f.contribution = .flag type → x.flags.contains (Text.lower f.name)) ∧
      ∀ b, b ≠ a → f.contribution = .embedded b →
        ∃ y, ((({} : Flattener).flatten c a).flattener.flatten c b).result = .ok y ∧
          ∀ path ∈ (nest f.name y.flags).map (·.1), x.flags.contains path := by
  obtain ⟨m', flags, q, hm', hrun, h⟩ := fresh_ok hok
  obtain rfl : m' = m := Option.some.inj (hm'.symm.trans hm)
  rw [h] at hok ⊢
  obtain rfl := Except.ok.inj hok
  obtain ⟨-, hcovers⟩ := covers_traversal.2 [a] a m'.fields .empty (begun {} a)
    (Served.fresh.closed.weaken a) flags (by rw [hrun])
  rw [hrun] at hcovers
  refine ⟨hcovers.own f hf, fun b hne hembed => ?_⟩
  obtain ⟨y, hy, hpaths⟩ := hcovers.embedded f hf b hembed (by simpa using hne)
  refine ⟨y, ?_, hpaths⟩
  rw [flatten_of_known ((NameMap.get?_insert_of_ne q.compiled _ hne).trans hy)]

/-- One of the flags comes by way of `a`. -/
def Shows (c : Catalog) (a name : String) (flags : NameMap FlagType) : Prop :=
  ∃ path, flags.contains path ∧ ∃ route, c.Offers name path route ∧ a ∈ route

/-- All message types that can be reached can be flattened first. -/
def Flattenable (c : Catalog) (name : String) : Prop :=
  ∀ a, c.Reaches name a → ∃ x, (({} : Flattener).flatten c a).result = .ok x

/-- Where nothing depends on what was flattened before, flags are passed on along embeddings. -/
theorem shows_of_reaches (hok : Flattenable c name) (hsteady : ∀ x, c.Reaches name x → Steady c x)
    (hb : c.Reaches name b)
    (hshows : ∀ y, (({} : Flattener).flatten c b).result = .ok y → Shows c a b y.flags) :
    ∀ x, (({} : Flattener).flatten c name).result = .ok x → Shows c a name x.flags := by
  induction hb using Relation.ReflTransGen.head_induction_on with
  | refl => exact hshows
  | @head name next hstep _ ih =>
    intro x hx
    have hnext := ih (fun y hy => hok y (.head hstep hy)) fun y hy => hsteady y (.head hstep hy)
    by_cases heq : next = name
    · exact heq ▸ hnext x (heq ▸ hx)
    · obtain ⟨y, hy⟩ := hok next (.single hstep)
      have hsame := hsteady next (.single hstep)
      obtain ⟨m, hm, f, hf, hkind⟩ := hstep
      have hembed := Field.contribution_eq_embedded_iff.2 hkind
      obtain ⟨z, hz, hpaths⟩ := (fresh_field hx hm hf).2 next heq hembed
      obtain rfl := hsame _ _ _ _ (Served.fresh.call hx) .fresh hz hy
      obtain ⟨path, hpath, route, hroute, ha⟩ := hnext z hy
      exact ⟨_, hpaths _ (mem_paths_nest.2 ⟨path, hpath, rfl⟩), name :: route,
        .under hm hf hembed hroute, List.mem_cons_of_mem _ ha⟩

/-- Where nothing depends on what was flattened before, what leads to a flag has flags. -/
theorem shows_of_flagged {x : FlagSchema} (hok : Flattenable c name)
    (hsteady : ∀ a, c.Reaches name a → Steady c a) (hname : c.Flagged name)
    (hx : (({} : Flattener).flatten c name).result = .ok x) : Shows c name name x.flags := by
  obtain ⟨b, hb, m, hm, f, hf, type, hgive⟩ := hname
  have hgiver : ∀ y, (({} : Flattener).flatten c b).result = .ok y → Shows c b b y.flags :=
    fun y hy => ⟨_, (fresh_field hy hm hf).1 type hgive, [b], .own hm hf hgive, by simp⟩
  obtain ⟨path, hpath, route, hroute, -⟩ := shows_of_reaches hok hsteady hb hgiver x hx
  exact ⟨path, hpath, route, hroute, hroute.mem_route⟩

/-- Of two message types that reach each other and lead to a flag, one depends on what was flattened
before. -/
theorem untangled_of_steady (hlegible : c.Legible) (hok : Flattenable c name)
    (hsteady : ∀ a, c.Reaches name a → Steady c a) : c.Untangled name := by
  intro a b ha hflagged hab hba
  by_contra hne
  obtain ⟨x, hx⟩ := hok a ha
  obtain ⟨y, hy⟩ := hok b (ha.trans hab)
  have hshows : ∀ x, (({} : Flattener).flatten c a).result = .ok x → Shows c a a x.flags :=
    fun x => shows_of_flagged (fun d hd => hok d (ha.trans hd))
      (fun d hd => hsteady d (ha.trans hd)) hflagged
  obtain ⟨path, hpath, route, hroute, hby⟩ :=
    shows_of_reaches (fun d hd => hok d ((ha.trans hab).trans hd))
      (fun d hd => hsteady d ((ha.trans hab).trans hd)) hba hshows y hy
  -- After `a`, the flags of `b` avoid `a`; but they are those that `b` has when it comes first.
  obtain ⟨z, hz, havoids⟩ := offered_of_inside hne hab hx
  obtain rfl := hsteady b (ha.trans hab) _ _ _ _ (Served.fresh.call hx) .fresh hz hy
  obtain ⟨route', hroute', haway⟩ := havoids path hpath
  rw [hlegible b path route route' hroute hroute'] at hby
  exact haway a hby rfl

/-- Where no two message types that can be reached and lead to flags reach each other, the flags are
the same whatever was flattened before. Nowhere else are they the same for all message types that
can be reached, provided that these can be flattened and that paths are legible. -/
theorem flatten_independent_of_history (c : Catalog) :
    (∀ name, c.Untangled name → Steady c name) ∧
      (c.Legible → ∀ name, Flattenable c name →
        ((∀ a, c.Reaches name a → Steady c a) ↔ c.Untangled name)) := by
  refine ⟨fun name => steady_of_untangled, fun hlegible name hok => ⟨?_, fun hname a ha => ?_⟩⟩
  · exact untangled_of_steady hlegible hok
  · exact steady_of_untangled fun x y hx => hname x y (ha.trans hx)

/-- Two message types that embed each other, and one that embeds itself. -/
def kinship : Catalog where
  messages.entries :=
    [("acme.Company", ⟨"Company", "acme.Company",
      [⟨"id", .scalar .string, false⟩, ⟨"boss", .message "acme.Person", false⟩]⟩),
     ("acme.Folder", ⟨"Folder", "acme.Folder",
      [⟨"id", .scalar .string, false⟩, ⟨"up", .message "acme.Folder", false⟩]⟩),
     ("acme.Person", ⟨"Person", "acme.Person",
      [⟨"on", .scalar .bool, false⟩, ⟨"firm", .message "acme.Company", false⟩]⟩)]
  messages.ascending := by decide

theorem kinship_person : (({} : Flattener).flatten kinship "acme.Person").result =
    .ok ⟨"Person", "acme.Person",
      .ofList [("firm.id", ⟨.string, false⟩), ("on", ⟨.bool, false⟩)]⟩ := by cbv

theorem kinship_company : (({} : Flattener).flatten kinship "acme.Company").result =
    .ok ⟨"Company", "acme.Company",
      .ofList [("boss.on", ⟨.bool, false⟩), ("id", ⟨.string, false⟩)]⟩ := by cbv

theorem kinship_company_after_person :
    ((({} : Flattener).flatten kinship "acme.Person").flattener.flatten kinship
      "acme.Company").result =
      .ok ⟨"Company", "acme.Company", .ofList [("id", ⟨.string, false⟩)]⟩ := by cbv

theorem kinship_embeds {a b : String} (h : kinship.Embeds a b) :
    a = "acme.Company" ∧ b = "acme.Person" ∨ a = "acme.Folder" ∧ b = "acme.Folder" ∨
      a = "acme.Person" ∧ b = "acme.Company" := by
  obtain ⟨m, hm, f, hf, -, hk⟩ := h
  have hentry := NameMap.get?_eq_some_iff.1 hm
  simp only [kinship, List.mem_cons, List.not_mem_nil, or_false, Prod.mk.injEq] at hentry
  rcases hentry with ⟨rfl, rfl⟩ | ⟨rfl, rfl⟩ | ⟨rfl, rfl⟩ <;> simp_all <;>
    rcases hf with rfl | rfl <;> simp_all

theorem kinship_plain : kinship.Plain := by
  intro name m hm
  have hentry := NameMap.get?_eq_some_iff.1 hm
  have hid : Text.lower "id" = "id" := by decide +kernel
  have hboss : Text.lower "boss" = "boss" := by decide +kernel
  have hup : Text.lower "up" = "up" := by decide +kernel
  have hon : Text.lower "on" = "on" := by decide +kernel
  have hfirm : Text.lower "firm" = "firm" := by decide +kernel
  simp only [kinship, List.mem_cons, List.not_mem_nil, or_false, Prod.mk.injEq] at hentry
  rcases hentry with ⟨-, rfl⟩ | ⟨-, rfl⟩ | ⟨-, rfl⟩
  · simp [hid, hboss, Catalog.isPlain]
  · simp [hid, hup, Catalog.isPlain]
  · simp [hon, hfirm, Catalog.isPlain]

theorem kinship_reaches {a : String} (h : kinship.Reaches "acme.Company" a) :
    a = "acme.Company" ∨ a = "acme.Person" := by
  induction h with
  | refl => exact .inl rfl
  | tail _ hstep ih =>
    rcases ih with rfl | rfl
    · exact .inr (by simpa using kinship_embeds hstep)
    · exact .inl (by simpa using kinship_embeds hstep)

/-- After a person was flattened, a company has no flags that come by way of a person. -/
theorem flatten_depends_on_history : ¬Steady kinship "acme.Company" := by
  intro h
  have heq := h _ _ _ _ .fresh (Served.fresh.call kinship_person) kinship_company
    kinship_company_after_person
  revert heq
  decide

/-- A message type that only embeds itself has the same flags whatever was flattened before, while
two that embed each other have not. -/
theorem kinship_history : Steady kinship "acme.Folder" ∧
    ¬∀ a, kinship.Reaches "acme.Company" a → Steady kinship a := by
  have hfolder : ∀ x, kinship.Reaches "acme.Folder" x → x = "acme.Folder" := by
    intro x hx
    induction hx with
    | refl => rfl
    | tail _ hstep ih =>
      rw [ih] at hstep
      simpa using kinship_embeds hstep
  have huntangled : kinship.Untangled "acme.Folder" := by
    intro x y hx _ hxy _
    rw [hfolder x hx, hfolder y (hx.trans hxy)]
  have hok : Flattenable kinship "acme.Company" := by
    intro a ha
    obtain rfl | rfl := kinship_reaches ha
    · exact ⟨_, kinship_company⟩
    · exact ⟨_, kinship_person⟩
  have hboss : kinship.Embeds "acme.Company" "acme.Person" :=
    ⟨_, rfl, ⟨"boss", .message "acme.Person", false⟩, by simp, rfl, rfl⟩
  have hfirm : kinship.Embeds "acme.Person" "acme.Company" :=
    ⟨_, rfl, ⟨"firm", .message "acme.Company", false⟩, by simp, rfl, rfl⟩
  have hflagged : kinship.Flagged "acme.Company" :=
    ⟨_, .refl, _, rfl, ⟨"id", .scalar .string, false⟩, by simp, _, rfl⟩
  obtain ⟨hsame, hexact⟩ := flatten_independent_of_history kinship
  refine ⟨hsame _ huntangled, fun hall => ?_⟩
  have hcompany := (hexact kinship_plain.legible "acme.Company" hok).1 hall
  have heq := hcompany _ _ .refl hflagged (.single hboss) (.single hfirm)
  exact absurd heq (by decide)

end ServiceCli.Flattener
