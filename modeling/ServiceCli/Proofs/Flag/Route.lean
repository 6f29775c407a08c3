import Mathlib.Data.List.Chain
import Mathlib.Data.List.Nodup
import ServiceCli.Proofs.Flag.Origin

/-!
Ways through the message types. A flag is found along a route, and a field may be left out of it
without loss if its type lies on every way to the message type that has the field. That is so for
all fields that lead back to where a way came from if every cycle can be entered at one place only.
-/
namespace ServiceCli.Catalog

variable {c : Catalog} {skip : String → String → Prop} {name path : String} {route : List String}
  {type : FlagType}

/-- `Follows c skip name route path type` says that embeddings lead from `name` along `route` to a
field which gives a flag of this type, that `skip` leaves none of them out, and that `path` is the
path of the flag among those of `name`. -/
inductive Follows (c : Catalog) (skip : String → String → Prop) :
    String → List String → String → FlagType → Prop where
  | own {name : String} {m : MessageType} {f : Field} {type : FlagType} :
      c.message? name = some m → f ∈ m.fields → f.contribution = .flag type →
      Follows c skip name [name] (Text.lower f.name) type
  | under {name path b : String} {route : List String} {m : MessageType} {f : Field}
      {type : FlagType} :
      c.message? name = some m → f ∈ m.fields → f.contribution = .embedded b → ¬skip name b →
      Follows c skip b route path type →
      Follows c skip name (name :: route) (Text.lower (Text.lower f.name ++ "." ++ path)) type

theorem Follows.offers (h : c.Follows skip name route path type) : c.Offers name path route := by
  induction h with
  | own hm hf hgive => exact .own hm hf hgive
  | under hm hf hembed _ _ ih => exact .under hm hf hembed ih

theorem Follows.head (h : c.Follows skip name route path type) : route.head? = some name := by
  cases h <;> rfl

theorem Follows.linked (h : c.Follows skip name route path type) :
    route.IsChain fun a b => c.Embeds a b ∧ ¬skip a b := by
  induction h with
  | own => exact List.isChain_singleton _
  | under hm hf hembed hskip hsub ih =>
    refine List.isChain_cons.2 ⟨fun b hb => ?_, ih⟩
    obtain rfl := Option.some.inj (hsub.head.symm.trans hb)
    exact ⟨.of_field hm hf hembed, hskip⟩

/-- A route may be followed as long as none of its embeddings is left out. -/
theorem Follows.reroute {skip' : String → String → Prop}
    (h : c.Follows skip name route path type) (hroute : route.IsChain fun a b => ¬skip' a b) :
    c.Follows skip' name route path type := by
  induction h with
  | own hm hf hgive => exact .own hm hf hgive
  | under hm hf hembed _ hsub ih =>
    obtain ⟨hhead, htail⟩ := List.isChain_cons.1 hroute
    exact .under hm hf hembed (hhead _ hsub.head) (ih htail)

/-- Embeddings lead along `way` from one message type to another, and through none of them twice. -/
structure Way (c : Catalog) (a b : String) (way : List String) : Prop where
  begins : way.head? = some a
  ends : way.getLast? = some b
  linked : way.IsChain c.Embeds
  distinct : way.Nodup

/-- The embeddings of a field lead to where some way to its message type came from. -/
structure Back (c : Catalog) (name a b : String) : Prop where
  embeds : c.Embeds a b
  way : ∃ way, c.Way name a way ∧ b ∈ way

/-- Every way from `name` to `a` comes through `b`. -/
def Dominates (c : Catalog) (name b a : String) : Prop := ∀ way, c.Way name a way → b ∈ way

/-- Embeddings lead along the list and from its end back to its beginning. -/
structure Cycle (c : Catalog) (cycle : List String) : Prop where
  linked : cycle.IsChain c.Embeds
  closed : ∃ a b, cycle.getLast? = some a ∧ cycle.head? = some b ∧ c.Embeds a b

/-- Ways from `name` enter each cycle at one message type of it only. -/
def SingleEntry (c : Catalog) (name : String) : Prop :=
  ∀ cycle, c.Cycle cycle → ∃ b ∈ cycle, ∀ a ∈ cycle, c.Dominates name b a

variable {a b : String}

theorem Way.push {way : List String} (h : c.Way name a way) (he : c.Embeds a b) (hb : b ∉ way) :
    c.Way name b (way ++ [b]) where
  begins := by rw [List.head?_append, h.begins]; rfl
  ends := by simp
  linked := by
    refine List.isChain_append.2 ⟨h.linked, List.isChain_singleton b, ?_⟩
    rw [h.ends]
    simpa using he
  distinct := by
    have hconcat := h.distinct.concat hb
    rwa [List.concat_eq_append] at hconcat

theorem Way.take {before after : List String} (h : c.Way name a (before ++ b :: after)) :
    c.Way name b (before ++ [b]) where
  begins := by
    have hbegins := h.begins
    cases before <;> simpa using hbegins
  ends := by simp
  linked := by
    have hsplit : before ++ b :: after = before ++ [b] ++ after := by simp
    exact (List.isChain_append.1 (hsplit ▸ h.linked)).1
  distinct := h.distinct.sublist (by simp)

/-- The message type that a field leads back to is the one at which its cycle is entered. -/
theorem SingleEntry.dominates_of_back (h : c.SingleEntry name) (hback : c.Back name a b) :
    c.Dominates name b a := by
  obtain ⟨way, hway, hb⟩ := hback.way
  obtain ⟨before, after, rfl⟩ := List.append_of_mem hb
  have hcycle : c.Cycle (b :: after) :=
    ⟨(List.isChain_append.1 hway.linked).2.1, a, b, by simpa using hway.ends, rfl, hback.embeds⟩
  obtain ⟨entry, hentry, hdominates⟩ := h _ hcycle
  have hmem : entry ∈ before ++ [b] := hdominates b List.mem_cons_self _ hway.take
  obtain hbefore | hself := List.mem_append.1 hmem
  · exact absurd rfl ((List.nodup_append.1 hway.distinct).2.2 entry hbefore entry hentry)
  · obtain rfl := List.mem_singleton.1 hself
    exact hdominates a (List.mem_of_getLast? (by simpa using hway.ends))

/-- A way never goes on to a message type that dominates where it is. -/
theorem Way.onward {before after : List String} (h : c.Way name a (before ++ [a]))
    (hlinked : (a :: after).IsChain c.Embeds) (hdistinct : (before ++ a :: after).Nodup)
    (hskip : ∀ x y, skip x y → c.Dominates name y x) :
    (a :: after).IsChain fun x y => ¬skip x y := by
  induction after generalizing before a with
  | nil => exact List.isChain_singleton a
  | cons b after ih =>
    obtain ⟨hhead, htail⟩ := List.isChain_cons.1 hlinked
    have hsplit : before ++ a :: b :: after = (before ++ [a]) ++ b :: after := by simp
    have hnew : b ∉ before ++ [a] := fun hmem =>
      absurd rfl ((List.nodup_append.1 (hsplit ▸ hdistinct)).2.2 b hmem b List.mem_cons_self)
    refine List.isChain_cons.2 ⟨fun y hy hcut => ?_, ?_⟩
    · obtain rfl := Option.some.inj hy
      exact hnew (hskip a b hcut _ h)
    · exact ih (h.push (hhead b rfl) hnew) htail (hsplit ▸ hdistinct)

/-- Fields that lead back may be left out of a route through distinct message types. -/
theorem Follows.avoids_back {skip' : String → String → Prop} (hentry : c.SingleEntry name)
    (hback : ∀ x y, skip' x y → c.Back name x y) (h : c.Follows skip name route path type)
    (hdistinct : route.Nodup) : route.IsChain fun x y => ¬skip' x y := by
  obtain ⟨after, rfl⟩ := List.head?_eq_some_iff.1 h.head
  have hway : c.Way name name ([] ++ [name]) :=
    ⟨rfl, rfl, List.isChain_singleton name, List.nodup_singleton name⟩
  exact hway.onward (h.linked.imp fun _ _ => And.left) hdistinct
    fun x y hcut => hentry.dominates_of_back (hback x y hcut)

/-- The catalogs have the same message types, up to the order of their fields. -/
def Reordered (c d : Catalog) : Prop :=
  ∀ name, Option.Rel
    (fun m m' => m.name = m'.name ∧ m.fullName = m'.fullName ∧ m.fields.Perm m'.fields)
    (c.message? name) (d.message? name)

variable {d : Catalog}

theorem Reordered.message {m : MessageType} (h : c.Reordered d) (hm : c.message? name = some m) :
    ∃ m', d.message? name = some m' ∧ m.name = m'.name ∧ m.fullName = m'.fullName ∧
      m.fields.Perm m'.fields := by
  have hname := h name
  rw [hm] at hname
  generalize hm' : d.message? name = o at hname
  cases hname with
  | some hsame => exact ⟨_, rfl, hsame⟩

theorem Reordered.symm (h : c.Reordered d) : d.Reordered c := by
  intro name
  have hname := h name
  generalize c.message? name = o at hname ⊢
  generalize d.message? name = o' at hname ⊢
  cases hname with
  | none => exact .none
  | some hsame => exact .some ⟨hsame.1.symm, hsame.2.1.symm, hsame.2.2.symm⟩

theorem Reordered.embeds (h : c.Reordered d) (he : c.Embeds a b) : d.Embeds a b := by
  obtain ⟨m, hm, f, hf, hkind⟩ := he
  obtain ⟨m', hm', -, -, hfields⟩ := h.message hm
  exact ⟨m', hm', f, hfields.mem_iff.1 hf, hkind⟩

theorem Reordered.follows (h : c.Reordered d) (hroute : c.Follows skip name route path type) :
    d.Follows skip name route path type := by
  induction hroute with
  | own hm hf hgive =>
    obtain ⟨m', hm', -, -, hfields⟩ := h.message hm
    exact .own hm' (hfields.mem_iff.1 hf) hgive
  | under hm hf hembed hskip _ ih =>
    obtain ⟨m', hm', -, -, hfields⟩ := h.message hm
    exact .under hm' (hfields.mem_iff.1 hf) hembed hskip ih

theorem Reordered.singleEntry (h : c.Reordered d) (hentry : c.SingleEntry name) :
    d.SingleEntry name := by
  intro cycle hcycle
  obtain ⟨a, b, ha, hb, he⟩ := hcycle.closed
  obtain ⟨entry, hmem, hdominates⟩ := hentry cycle
    ⟨hcycle.linked.imp fun _ _ => h.symm.embeds, a, b, ha, hb, h.symm.embeds he⟩
  refine ⟨entry, hmem, fun x hx way hway => hdominates x hx way ?_⟩
  exact ⟨hway.begins, hway.ends, hway.linked.imp fun _ _ => h.symm.embeds, hway.distinct⟩

end ServiceCli.Catalog
