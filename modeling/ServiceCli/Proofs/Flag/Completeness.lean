import Mathlib
import ServiceCli.Proofs.Flag.Ledger

/-!
Which flags the first flattening finds. Since a message type is flattened only once, a field that is
left out stays left out on all routes, also on those that do not come through the message type of the
field. Flags are lost in this way only if a cycle of message types can be entered at several places.
-/
namespace ServiceCli.Flattener

variable {c : Catalog} {name : String}

/-- The flags on all routes through distinct message types are there. -/
def Complete (c : Catalog) (name : String) (flags : NameMap FlagType) : Prop :=
  ∀ route path type, c.Follows (fun _ _ => False) name route path type → route.Nodup →
    flags.get? path = some type

variable {x : FlagSchema}

/-- The first flattening goes through the fields of its message type with an empty ledger. -/
theorem fresh_enters (hok : (({} : Flattener).flatten c name).result = .ok x) :
    ∃ m q, c.message? name = some m ∧ x.name = m.name ∧ x.fullName = m.fullName ∧
      (({} : Flattener).flatten c name).events = q.events ∧
      Enters c [name] name m.fields (begun {} name) q ∧
      (∀ path type, x.flags.get? path = some type ↔
        ∃ f ∈ m.fields, Adds [name] q.compiled f path type) ∧
      ∀ a b, Cut q.events a b → c.Back name a b := by
  obtain ⟨m, flags, q, hm, hrun, hflatten⟩ := fresh_ok hok
  rw [hflatten] at hok ⊢
  obtain rfl := Except.ok.inj hok
  have hempty : Ledger c [name] (begun {} name) := by
    constructor <;> simp [begun, Progress.started, Progress.note, NameMap.contains, Cut]
  have henters := ledger_traversal.2 [name] name m.fields .empty (begun {} name) (by simp) hempty
    flags (by rw [hrun])
  obtain ⟨hflags, -⟩ := adds_traversal.2 [name] name m.fields .empty (begun {} name) flags
    (by rw [hrun])
  have hback := (back_traversal name).2 [name] name m.fields .empty (begun {} name) (.of_message hm)
    ⟨rfl, rfl, List.isChain_singleton name, List.nodup_singleton name⟩
  rw [hrun] at henters hflags hback
  refine ⟨m, q, hm, rfl, rfl, rfl, henters, by simpa using hflags, fun a b hcut => ?_⟩
  refine (hback a b hcut).resolve_left ?_
  simp [begun, Cut]

/-- The flags of the first flattening are those that can be found without what it left out. -/
theorem fresh_exact (hok : (({} : Flattener).flatten c name).result = .ok x) (path : String)
    (type : FlagType) : x.flags.get? path = some type ↔ ∃ route,
      c.Follows (Cut (({} : Flattener).flatten c name).events) name route path type := by
  obtain ⟨m, q, hm, -, -, hevents, henters, hflags, -⟩ := fresh_enters hok
  rw [hevents]
  exact henters.exact hm (by simp [begun, Cut]) hflags path type

/-- What the first flattening leaves out leads back, and without it nothing leads back. -/
theorem fresh_distinct {path : String} {route : List String} {type : FlagType}
    (hok : (({} : Flattener).flatten c name).result = .ok x)
    (hroute : c.Follows (Cut (({} : Flattener).flatten c name).events) name route path type) :
    route.Nodup := by
  obtain ⟨m, q, hm, -, -, hevents, henters, -, -⟩ := fresh_enters hok
  rw [hevents] at hroute
  exact henters.distinct hm hroute

theorem fresh_back (hok : (({} : Flattener).flatten c name).result = .ok x) {a b : String}
    (hcut : Cut (({} : Flattener).flatten c name).events a b) : c.Back name a b := by
  obtain ⟨m, q, -, -, -, hevents, -, -, hback⟩ := fresh_enters hok
  exact hback a b (hevents ▸ hcut)

/-- Where cycles are entered at one place only, the flags are those on all routes through distinct
message types. -/
theorem fresh_exact_of_singleEntry (hok : (({} : Flattener).flatten c name).result = .ok x)
    (hentry : c.SingleEntry name) (path : String) (type : FlagType) :
    x.flags.get? path = some type ↔
      ∃ route, c.Follows (fun _ _ => False) name route path type ∧ route.Nodup := by
  rw [fresh_exact hok]
  constructor
  · rintro ⟨route, hroute⟩
    exact ⟨route, hroute.reroute (hroute.linked.imp fun _ _ _ => id), fresh_distinct hok hroute⟩
  · rintro ⟨route, hroute, hdistinct⟩
    exact ⟨route, hroute.reroute (hroute.avoids_back hentry (fun _ _ => fresh_back hok) hdistinct)⟩

theorem eq_of_get? {flags more : NameMap FlagType}
    (h : ∀ path type, flags.get? path = some type ↔ more.get? path = some type) : flags = more := by
  have hirrefl : Std.Irrefl fun e e' : String × FlagType => e.1 < e'.1 :=
    ⟨fun e => String.lt_irrefl e.1⟩
  refine NameMap.ext (flags.ascending.eq_of_mem_iff more.ascending ?_)
  rintro ⟨path, type⟩
  rw [← NameMap.get?_eq_some_iff, ← NameMap.get?_eq_some_iff]
  exact h path type

/-- There the order of the fields does not matter. -/
theorem fresh_eq_of_reordered {d : Catalog} {y : FlagSchema}
    (hok : (({} : Flattener).flatten c name).result = .ok x) (hentry : c.SingleEntry name)
    (hd : c.Reordered d) (hok' : (({} : Flattener).flatten d name).result = .ok y) : y = x := by
  have hflags : y.flags = x.flags := by
    refine eq_of_get? fun path type => ?_
    rw [fresh_exact_of_singleEntry hok hentry,
      fresh_exact_of_singleEntry hok' (hd.singleEntry hentry)]
    exact exists_congr fun route => and_congr_left fun _ => ⟨hd.symm.follows, hd.follows⟩
  obtain ⟨m, q, hm, hname, hfull, -⟩ := fresh_enters hok
  obtain ⟨m', q', hm', hname', hfull', -⟩ := fresh_enters hok'
  obtain ⟨m'', hm'', hsame, hfsame, -⟩ := hd.message hm
  obtain rfl := Option.some.inj (hm''.symm.trans hm')
  cases x
  cases y
  simp_all

/-- Where a path tells its route, flags are missing if and only if a field was left out of a route
through distinct message types. -/
theorem complete_iff_of_legible (hok : (({} : Flattener).flatten c name).result = .ok x)
    (hlegible : c.Legible) : Complete c name x.flags ↔
      ∀ route path type, c.Follows (fun _ _ => False) name route path type → route.Nodup →
        route.IsChain fun a b => ¬Cut (({} : Flattener).flatten c name).events a b := by
  constructor
  · intro hcomplete route path type hroute hdistinct
    obtain ⟨route', hroute'⟩ :=
      (fresh_exact hok path type).1 (hcomplete route path type hroute hdistinct)
    obtain rfl := hlegible name path route route' hroute.offers hroute'.offers
    exact hroute'.linked.imp fun _ _ => And.right
  · intro hkept route path type hroute hdistinct
    exact (fresh_exact hok path type).2
      ⟨route, hroute.reroute (hkept route path type hroute hdistinct)⟩

/-- The first flattening finds a flag if and only if a route leads to it along which nothing was left
out. All that was left out leads back to where some way came from, and no route comes back to a
message type without it. If each cycle is entered at one place only, these are all routes through
distinct message types, whatever the order of the fields. In general such a route may be lost: where
a path tells its route, the flags of all of them are there only if nothing was left out of any. -/
theorem flatten_complete (c : Catalog) (name : String) (x : FlagSchema)
    (hok : (({} : Flattener).flatten c name).result = .ok x) :
    (∀ path type, x.flags.get? path = some type ↔ ∃ route,
      c.Follows (Cut (({} : Flattener).flatten c name).events) name route path type) ∧
    (∀ a b, Cut (({} : Flattener).flatten c name).events a b → c.Back name a b) ∧
    (∀ route path type,
      c.Follows (Cut (({} : Flattener).flatten c name).events) name route path type →
        route.Nodup) ∧
    (c.SingleEntry name →
      (∀ path type, x.flags.get? path = some type ↔
        ∃ route, c.Follows (fun _ _ => False) name route path type ∧ route.Nodup) ∧
      ∀ d y, c.Reordered d → (({} : Flattener).flatten d name).result = .ok y → y = x) ∧
    (c.Legible → (Complete c name x.flags ↔
      ∀ route path type, c.Follows (fun _ _ => False) name route path type → route.Nodup →
        route.IsChain fun a b => ¬Cut (({} : Flattener).flatten c name).events a b)) := by
  refine ⟨fresh_exact hok, fun a b => fresh_back hok, fun route path type => fresh_distinct hok,
    fun hentry => ⟨fresh_exact_of_singleEntry hok hentry, fun d y hd hok' => ?_⟩,
    complete_iff_of_legible hok⟩
  exact fresh_eq_of_reordered hok hentry hd hok'

/-- A shop that embeds its owner and its bank, which embed each other. -/
def bazaar : Catalog where
  messages.entries :=
    [("acme.Bank", ⟨"Bank", "acme.Bank",
      [⟨"id", .scalar .string, false⟩, ⟨"boss", .message "acme.Person", false⟩]⟩),
     ("acme.Person", ⟨"Person", "acme.Person",
      [⟨"on", .scalar .bool, false⟩, ⟨"bank", .message "acme.Bank", false⟩]⟩),
     ("acme.Shop", ⟨"Shop", "acme.Shop",
      [⟨"owner", .message "acme.Person", false⟩, ⟨"bank", .message "acme.Bank", false⟩]⟩)]
  messages.ascending := by decide

theorem bazaar_shop : (({} : Flattener).flatten bazaar "acme.Shop").result =
    .ok ⟨"Shop", "acme.Shop", .ofList [("bank.id", ⟨.string, false⟩),
      ("owner.bank.id", ⟨.string, false⟩), ("owner.on", ⟨.bool, false⟩)]⟩ := by cbv

theorem bazaar_person : (({} : Flattener).flatten bazaar "acme.Person").result =
    .ok ⟨"Person", "acme.Person", .ofList [("bank.id", ⟨.string, false⟩),
      ("on", ⟨.bool, false⟩)]⟩ := by cbv

theorem bazaar_embeds {a b : String} (h : bazaar.Embeds a b) :
    a = "acme.Bank" ∧ b = "acme.Person" ∨ a = "acme.Person" ∧ b = "acme.Bank" ∨
      a = "acme.Shop" ∧ (b = "acme.Person" ∨ b = "acme.Bank") := by
  obtain ⟨m, hm, f, hf, -, hk⟩ := h
  have hentry := NameMap.get?_eq_some_iff.1 hm
  simp only [bazaar, List.mem_cons, List.not_mem_nil, or_false, Prod.mk.injEq] at hentry
  rcases hentry with ⟨rfl, rfl⟩ | ⟨rfl, rfl⟩ | ⟨rfl, rfl⟩ <;> simp_all <;>
    rcases hf with rfl | rfl <;> simp_all

/-- By way of its bank, a shop leads to a flag of the person who is the bank's boss. -/
theorem bazaar_boss : bazaar.Follows (fun _ _ => False) "acme.Shop"
    ["acme.Shop", "acme.Bank", "acme.Person"] "bank.boss.on" ⟨.bool, false⟩ := by
  have hon : bazaar.Follows (fun _ _ => False) "acme.Person" ["acme.Person"] (Text.lower "on")
      ⟨.bool, false⟩ :=
    .own (f := ⟨"on", .scalar .bool, false⟩) rfl (by simp) rfl
  have hboss : bazaar.Follows (fun _ _ => False) "acme.Bank" ["acme.Bank", "acme.Person"]
      (Text.lower (Text.lower "boss" ++ "." ++ Text.lower "on")) ⟨.bool, false⟩ :=
    .under (f := ⟨"boss", .message "acme.Person", false⟩) rfl (by simp) rfl id hon
  have hbank : bazaar.Follows (fun _ _ => False) "acme.Shop"
      ["acme.Shop", "acme.Bank", "acme.Person"] (Text.lower (Text.lower "bank" ++ "." ++
        Text.lower (Text.lower "boss" ++ "." ++ Text.lower "on"))) ⟨.bool, false⟩ :=
    .under (f := ⟨"bank", .message "acme.Bank", false⟩) rfl (by simp) rfl id hboss
  have hpath : Text.lower (Text.lower "bank" ++ "." ++
      Text.lower (Text.lower "boss" ++ "." ++ Text.lower "on")) = "bank.boss.on" := by
    decide +kernel
  rwa [hpath] at hbank

/-- The bank is remembered without its boss, who was being flattened when it was. -/
theorem bazaar_incomplete : ¬∀ name x, (({} : Flattener).flatten bazaar name).result = .ok x →
    Complete bazaar name x.flags := by
  intro h
  have hboss := h "acme.Shop" _ bazaar_shop _ _ _ bazaar_boss (by decide)
  revert hboss
  decide

/-- Every cycle goes through a person, where ways from a person begin. -/
theorem bazaar_singleEntry : bazaar.SingleEntry "acme.Person" := by
  intro cycle hcycle
  have hperson : "acme.Person" ∈ cycle := by
    obtain ⟨a, b, ha, hb, he⟩ := hcycle.closed
    obtain ⟨rest, rfl⟩ := List.head?_eq_some_iff.1 hb
    rcases bazaar_embeds he with ⟨-, rfl⟩ | ⟨rfl, -⟩ | ⟨rfl, rfl | rfl⟩
    · exact List.mem_cons_self
    · exact List.mem_of_getLast? ha
    · exact List.mem_cons_self
    · -- The cycle cannot come to a shop, so a bank at its beginning leads on to a person.
      match rest, ha with
      | next :: rest, _ =>
        have hnext := bazaar_embeds ((List.isChain_cons.1 hcycle.linked).1 next rfl)
        have heq : next = "acme.Person" := by simpa using hnext
        simp [heq]
  exact ⟨_, hperson, fun a _ way hway => List.mem_of_head? hway.begins⟩

/-- The flags of a person are on all routes from there, while the flags of a shop are not, since its
cycle of banks and persons can be entered at both. -/
theorem bazaar_complete : (∀ route path type, bazaar.Follows (fun _ _ => False) "acme.Person"
      route path type → route.Nodup → path = "on" ∨ path = "bank.id") ∧
    ¬bazaar.SingleEntry "acme.Shop" := by
  obtain ⟨-, -, -, hperson, -⟩ := flatten_complete bazaar "acme.Person" _ bazaar_person
  obtain ⟨-, -, -, hshop, -⟩ := flatten_complete bazaar "acme.Shop" _ bazaar_shop
  refine ⟨fun route path type hroute hdistinct => ?_, fun hentry => ?_⟩
  · have hget := ((hperson bazaar_singleEntry).1 path type).2 ⟨route, hroute, hdistinct⟩
    have hpath := (NameMap.contains_ofList _ path).1 (NameMap.contains_iff.2 ⟨type, hget⟩)
    simpa [or_comm] using hpath
  · have hboss := ((hshop hentry).1 "bank.boss.on" ⟨.bool, false⟩).2
      ⟨_, bazaar_boss, by decide⟩
    revert hboss
    decide

end ServiceCli.Flattener
