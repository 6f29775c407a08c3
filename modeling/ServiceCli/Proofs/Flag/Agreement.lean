import Mathlib
import ServiceCli.Flag.Expansion
import ServiceCli.Proofs.Flag.Provenance

/-!
Flattening and plain recursion agree where the recursion leaves out what leads back to the message
types being flattened. It may also leave out message types that lead to no flag.
-/
namespace ServiceCli

namespace Expansion

section Run

variable {α β : Type} {x : Expansion α} {f : α → Expansion β}

theorem run_bind_of_ok {a : α} (h : x.run = some (.ok a)) : (x >>= f).run = (f a).run := by
  rw [ExceptT.run_bind, h]
  rfl

theorem run_bind_of_error {e : Failure} (h : x.run = some (.error e)) :
    (x >>= f).run = some (.error e) := by
  rw [ExceptT.run_bind, h]
  rfl

end Run

variable (c : Catalog) (skip : String → String → Bool) (container : String)

/-- Plain recursion takes from a field what the field contributes. -/
theorem expandField_eq (f : Field) :
    c.expandField skip container f =
      match f.contribution with
      | .flag type => pure [(Text.lower f.name, type)]
      | .nothing | .otherMap => pure []
      | .unsupported kind => throw (.unsupportedFieldKind container f.name kind)
      | .embedded name =>
        if skip container name then pure []
        else do return Flattener.nest f.name (← c.expandMessage skip name).flags := by
  obtain ⟨name, kind, repeated⟩ := f
  rw [Catalog.expandField]
  cases repeated <;> cases kind
  case false.map key value =>
    simp only [Field.contribution, Bool.false_eq_true, if_false]
    by_cases h : key = .scalar .string ∧ (!value.isMessage) = true
    · rw [if_pos h, if_pos h]
    · rw [if_neg h, if_neg h]
  all_goals rfl

variable {c skip}

theorem expandMessage_run {name : String} {m : MessageType} {r : Except Failure (NameMap FlagType)}
    (hm : c.message? name = some m)
    (h : (c.expandFields skip name [] m.fields).run.map (·.map NameMap.ofList) = some r) :
    (c.expandMessage skip name).run = some (r.map fun flags => ⟨m.name, m.fullName, flags⟩) := by
  obtain ⟨x, hx, rfl⟩ := Option.map_eq_some_iff.1 h
  rw [Catalog.expandMessage, hm]
  cases x with
  | error e => exact run_bind_of_error hx
  | ok flags => exact run_bind_of_ok hx

end Expansion

namespace Flattener

/-- Adding flags one by one fails at the first path that comes again and otherwise adds them all. -/
theorem addFlags_ofList (sofar new : List (String × FlagType)) :
    addFlags (.ofList sofar) new =
      match Expansion.firstRepeated (sofar.map (·.1)) (new.map (·.1)) with
      | some path => .error path
      | none => .ok (.ofList (sofar ++ new)) := by
  induction new generalizing sofar with
  | nil => simp [addFlags, Expansion.firstRepeated]
  | cons e new ih =>
    obtain ⟨path, type⟩ := e
    simp only [addFlags, NameMap.contains_ofList, List.map_cons, Expansion.firstRepeated]
    split
    · rfl
    · rw [← NameMap.ofList_concat, ih]
      simp

/-- The active message types, the one whose fields are walked among them, all lead to it. -/
structure Stacked (c : Catalog) (active : List String) (message : String) : Prop where
  mem : message ∈ active
  reaches : ∀ a ∈ active, c.Reaches a message

variable {c : Catalog} {skip : String → String → Bool} {U : String → Prop}
  {active : List String} {message name : String}

theorem Stacked.single (c : Catalog) (name : String) : Stacked c [name] name :=
  ⟨by simp, fun a ha => by rw [List.mem_singleton.1 ha]⟩

theorem Stacked.push (h : Stacked c active message) (he : c.Embeds message name) :
    Stacked c (name :: active) name := by
  refine ⟨List.mem_cons_self, ?_⟩
  intro a ha
  rcases List.mem_cons.1 ha with rfl | ha
  · exact .refl
  · exact (h.reaches a ha).tail he

theorem Stacked.skip_of_mem (h : Stacked c active message) (hb : c.Breaks skip U) (hU : U message)
    (he : c.Embeds message name) (hname : name ∈ active) : skip message name = true :=
  hb.back hU he (h.reaches name hname)

theorem Stacked.not_flagged (h : Stacked c active message) (hb : c.Breaks skip U) (hU : U message)
    (he : c.Embeds message name) (hname : name ∉ active) (hskip : skip message name = true) :
    ¬c.Flagged name := by
  obtain rfl | hflagged := hb.loop hU he hskip
  · exact absurd h.mem hname
  · exact hflagged

/-- A step answers what plain recursion does, or fails in what the recursion leaves out. -/
inductive Agrees {α : Type} (skip : String → String → Bool) (x : Option (Except Failure α)) :
    Except Interruption α → Prop where
  | same {r : Except Interruption α} : x = some (r.mapError (·.failure)) → Agrees skip x r
  | skipped {a b : String} {e : Interruption} : skip a b = true → Agrees skip x (.error e)

theorem Agrees.of_ok {α : Type} {x : Option (Except Failure α)} {a : α}
    (h : Agrees skip x (.ok a)) : x = some (.ok a) := by
  cases h with
  | same h => exact h

/-- The message types in `U` that are remembered have the flags of plain recursion. -/
def Faithful (c : Catalog) (skip : String → String → Bool) (U : String → Prop)
    (memo : NameMap FlagSchema) : Prop :=
  ∀ name s, memo.get? name = some s → U name → (c.expandMessage skip name).run = some (.ok s)

theorem Faithful.insert {memo : NameMap FlagSchema} {s : FlagSchema}
    (h : Faithful c skip U memo)
    (hs : U name → (c.expandMessage skip name).run = some (.ok s)) :
    Faithful c skip U (memo.insert name s) := by
  intro other s' hget hU
  rw [NameMap.get?_insert] at hget
  split at hget
  · rename_i heq
    subst heq
    rw [hs hU, Option.some.inj hget]
  · exact h other s' hget hU

/-- Each step keeps what is remembered faithful, and on the message types in `U` it does what plain
recursion does. -/
theorem faithful_traversal (hb : c.Breaks skip U) :
    (∀ active message f p, Stacked c active message → FieldsOf c message [f] →
      Sourced c (fun _ => False) p.compiled → Faithful c skip U p.compiled →
      Faithful c skip U (fieldFlags c active message f p).2.compiled ∧
        (U message →
          Agrees skip (c.expandField skip message f).run (fieldFlags c active message f p).1)) ∧
    ∀ active message fs flags p, Stacked c active message → FieldsOf c message fs →
      Sourced c (fun _ => False) p.compiled → Faithful c skip U p.compiled →
      Faithful c skip U (flattenFields c active message fs flags p).2.compiled ∧
        (U message → ∀ sofar, flags = .ofList sofar → Agrees skip
          ((c.expandFields skip message sofar fs).run.map (·.map NameMap.ofList))
          (flattenFields c active message fs flags p).1) := by
  apply traversal
    (P := fun active message f p out => Stacked c active message → FieldsOf c message [f] →
      Sourced c (fun _ => False) p.compiled → Faithful c skip U p.compiled →
      Faithful c skip U out.2.compiled ∧
        (U message → Agrees skip (c.expandField skip message f).run out.1))
    (Q := fun active message fs flags p out => Stacked c active message → FieldsOf c message fs →
      Sourced c (fun _ => False) p.compiled → Faithful c skip U p.compiled →
      Faithful c skip U out.2.compiled ∧ (U message → ∀ sofar, flags = .ofList sofar → Agrees skip
        ((c.expandFields skip message sofar fs).run.map (·.map NameMap.ofList)) out.1))
  case flag =>
    intro active message f p type h _ _ _ hp
    refine ⟨hp, fun _ => .same ?_⟩
    rw [Expansion.expandField_eq, h]
    rfl
  case silent =>
    intro active message f p q h hq _ _ _ _ _ hp
    refine ⟨hq ▸ hp, fun _ => .same ?_⟩
    rw [Expansion.expandField_eq]
    rcases h with h | h <;> rw [h] <;> rfl
  case unsupported =>
    intro active message f p kind h _ _ _ hp
    refine ⟨hp, fun _ => .same ?_⟩
    rw [Expansion.expandField_eq, h]
    rfl
  case cut =>
    intro active message f p q name h hname hq _ _ hst hf _ hp
    refine ⟨hq ▸ hp, fun hU => .same ?_⟩
    simp only [Expansion.expandField_eq, h, hst.skip_of_mem hb hU (hf.embeds h) hname]
    rfl
  case known =>
    intro active message f p name s h hname hs hst hf hsourced hp
    refine ⟨hp, fun hU => .same ?_⟩
    have he := hf.embeds h
    by_cases hskip : skip message name = true
    · rw [nest_eq_nil (hsourced name s hs) (hst.not_flagged hb hU he hname hskip)]
      simp only [Expansion.expandField_eq, h, hskip]
      rfl
    · have hrun := hp name s hs (hb.closed hU he)
      simp only [Expansion.expandField_eq, h, if_neg hskip]
      exact Expansion.run_bind_of_ok hrun
  case unknown =>
    intro active message f p name h _ _ hm _ _ _ hp
    refine ⟨hp, fun hU => ?_⟩
    by_cases hskip : skip message name = true
    · exact .skipped hskip
    · refine .same ?_
      simp only [Expansion.expandField_eq, h, if_neg hskip, Catalog.expandMessage, hm]
      rfl
  case interrupted =>
    intro active message f p name m e q h _ _ hm _ ih hst hf hsourced hp
    have he := hf.embeds h
    obtain ⟨hq, hrun⟩ := ih (hst.push he) (.of_message hm) hsourced hp
    refine ⟨hq, fun hU => ?_⟩
    by_cases hskip : skip message name = true
    · exact .skipped hskip
    · cases hrun (hb.closed hU he) [] rfl with
      | skipped hskip => exact .skipped hskip
      | same hrun =>
        refine .same ?_
        simp only [Expansion.expandField_eq, h, if_neg hskip]
        exact Expansion.run_bind_of_error (Expansion.expandMessage_run hm hrun)
  case walked =>
    intro active message f p name m flags q h hname _ hm hwalk ih hst hf hsourced hp
    have he := hf.embeds h
    obtain ⟨hq, hrun⟩ := ih (hst.push he) (.of_message hm) hsourced hp
    have hmessage : U name → (c.expandMessage skip name).run =
        some (.ok ⟨m.name, m.fullName, flags⟩) :=
      fun hU => Expansion.expandMessage_run hm (hrun hU [] rfl).of_ok
    refine ⟨hq.insert hmessage, fun hU => .same ?_⟩
    by_cases hskip : skip message name = true
    · obtain ⟨-, hflags⟩ := sourced_traversal.2 (name :: active) name m.fields .empty
        (p.started name) (fun _ => False.elim) (.of_message hm) hsourced
      have hoffered := hflags id (by simp [NameMap.contains]) flags (by rw [hwalk])
      rw [nest_eq_nil hoffered (hst.not_flagged hb hU he hname hskip)]
      simp only [Expansion.expandField_eq, h, hskip]
      rfl
    · simp only [Expansion.expandField_eq, h, if_neg hskip]
      exact Expansion.run_bind_of_ok (hmessage (hb.closed hU he))
  case nil =>
    intro active message flags p _ _ _ hp
    refine ⟨hp, fun _ sofar hsofar => .same ?_⟩
    rw [Catalog.expandFields, hsofar]
    rfl
  case failed =>
    intro active message f fs flags p e q ih hst hfs hsourced hp
    obtain ⟨hq, hrun⟩ := ih hst hfs.head hsourced hp
    refine ⟨hq, fun hU sofar _ => ?_⟩
    cases hrun hU with
    | skipped hskip => exact .skipped hskip
    | same hrun =>
      refine .same ?_
      rw [Catalog.expandFields, Expansion.run_bind_of_error hrun]
      rfl
  case collision =>
    intro active message f fs flags p new q path ih hadd hst hfs hsourced hp
    obtain ⟨hq, hrun⟩ := ih hst hfs.head hsourced hp
    refine ⟨hq, fun hU sofar hsofar => .same ?_⟩
    rw [hsofar, addFlags_ofList] at hadd
    rw [Catalog.expandFields, Expansion.run_bind_of_ok (hrun hU).of_ok]
    cases hagain : Expansion.firstRepeated (sofar.map (·.1)) (new.map (·.1)) with
    | none =>
      rw [hagain] at hadd
      cases hadd
    | some again =>
      rw [hagain] at hadd
      rw [Except.error.inj hadd]
      rfl
  case cons =>
    intro active message f fs flags p new q more out hfield ih hadd _ ihs hst hfs hsourced hp
    obtain ⟨hq, hrun⟩ := ih hst hfs.head hsourced hp
    have hkept := (sourced_traversal.1 active message f p (fun _ => False.elim) hfs.head hsourced).1
    rw [hfield] at hkept
    obtain ⟨hout, hruns⟩ := ihs hst hfs.tail hkept hq
    refine ⟨hout, fun hU sofar hsofar => ?_⟩
    rw [hsofar, addFlags_ofList] at hadd
    rw [Catalog.expandFields, Expansion.run_bind_of_ok (hrun hU).of_ok]
    cases hagain : Expansion.firstRepeated (sofar.map (·.1)) (new.map (·.1)) with
    | none =>
      rw [hagain] at hadd
      exact hruns hU (sofar ++ new) (Except.ok.inj hadd).symm
    | some again =>
      rw [hagain] at hadd
      cases hadd

theorem Served.faithful {s : Flattener} (hs : Served c s) (hb : c.Breaks skip U) :
    Faithful c skip U s.compiled := by
  apply hs.remembered
  case fresh =>
    intro name s h
    simp at h
  case walked =>
    intro s name m flags q hs hmemo _ hm hrun
    have hwalk := (faithful_traversal hb).2 [name] name m.fields .empty (s.begun name)
      (.single c name) (.of_message hm) hs.sourced hmemo
    rw [hrun] at hwalk
    exact hwalk.1.insert fun hU => Expansion.expandMessage_run hm (hwalk.2 hU [] rfl).of_ok

/-- After successful flattenings, flattening a message type in `U` answers what plain recursion
does, or fails in what the recursion leaves out. -/
theorem Served.agrees {s : Flattener} (hs : Served c s) (hb : c.Breaks skip U) (hU : U name) :
    (c.expandMessage skip name).run = some (s.flatten c name).result ∨
      (∃ a b, skip a b = true) ∧ ∃ e, (s.flatten c name).result = .error e := by
  cases hmemo : s.compiled.get? name with
  | some schema =>
    rw [flatten_of_known hmemo]
    exact .inl (hs.faithful hb name schema hmemo hU)
  | none =>
    cases hm : c.message? name with
    | none =>
      rw [flatten_of_unknown hmemo hm, Catalog.expandMessage, hm]
      exact .inl rfl
    | some m =>
      have hwalk := (faithful_traversal hb).2 [name] name m.fields .empty (s.begun name)
        (.single c name) (.of_message hm) hs.sourced (hs.faithful hb)
      obtain ⟨e, q, h, hflatten⟩ | ⟨flags, q, h, hflatten⟩ := flatten_of_idle hs.idle hmemo hm
      · rw [h] at hwalk
        rw [hflatten]
        cases hwalk.2 hU [] rfl with
        | skipped hskip => exact .inr ⟨⟨_, _, hskip⟩, _, rfl⟩
        | same hrun => exact .inl (Expansion.expandMessage_run hm hrun)
      · rw [h] at hwalk
        rw [hflatten]
        exact .inl (Expansion.expandMessage_run hm (hwalk.2 hU [] rfl).of_ok)

/-- Where no message type reaches itself, flattening answers what plain recursion does, whatever was
flattened before. -/
theorem flatten_eq_expansion {s : Flattener} (hs : Served c s) (hn : c.Nonrecursive name) :
    c.expansion name = some (s.flatten c name).result := by
  obtain h | ⟨⟨a, b, hskip⟩, -⟩ := hs.agrees c.breaks_nonrecursive hn
  · exact h
  · simp at hskip

/-- A message type that embeds another one in a field whose name has a capital. -/
def delivery : Catalog where
  messages.entries :=
    [("acme.Order", ⟨"Order", "acme.Order",
      [⟨"To", .message "acme.Place", false⟩, ⟨"n", .scalar .sint32, false⟩]⟩),
     ("acme.Place", ⟨"Place", "acme.Place", [⟨"zip", .scalar .string, true⟩]⟩)]
  messages.ascending := by decide

theorem delivery_embeds {a b : String} (h : delivery.Embeds a b) :
    a = "acme.Order" ∧ b = "acme.Place" := by
  obtain ⟨m, hm, f, hf, -, hk⟩ := h
  have hentry := NameMap.get?_eq_some_iff.1 hm
  simp only [delivery, List.mem_cons, List.not_mem_nil, or_false, Prod.mk.injEq] at hentry
  rcases hentry with ⟨rfl, rfl⟩ | ⟨rfl, rfl⟩
  · simp only [List.mem_cons, List.not_mem_nil, or_false] at hf
    rcases hf with rfl | rfl <;> simp_all
  · simp_all

def placeFlags : FlagSchema := ⟨"Place", "acme.Place", .ofList [("zip", ⟨.string, true⟩)]⟩

theorem delivery_place : ({} : Flattener).flatten delivery "acme.Place" =
    ⟨.ok placeFlags, ⟨.ofList [("acme.Place", placeFlags)], [], 1⟩,
      [.flattening "acme.Place"]⟩ := by
  cbv

theorem delivery_order_after_place :
    ((({} : Flattener).flatten delivery "acme.Place").flattener.flatten delivery
      "acme.Order").result = .ok ⟨"Order", "acme.Order",
        .ofList [("n", ⟨.int32, false⟩), ("to.zip", ⟨.string, true⟩)]⟩ := by
  have hmessage : delivery.message? "acme.Order" = some ⟨"Order", "acme.Order",
    [⟨"To", .message "acme.Place", false⟩, ⟨"n", .scalar .sint32, false⟩]⟩ := rfl
  have hplace : (NameMap.ofList [("acme.Place", placeFlags)]).get? "acme.Place" =
    some placeFlags := rfl
  have horder : (NameMap.ofList [("acme.Place", placeFlags)]).get? "acme.Order" = none := rfl
  have hto : nest "To" placeFlags.flags = [("to.zip", ⟨.string, true⟩)] := by decide +kernel
  have hn : Text.lower "n" = "n" := by decide +kernel
  rw [delivery_place]
  simp only [flatten, horder, hmessage, List.not_mem_nil, ↓reduceIte, flattenFields, fieldFlags,
    Field.contribution, Bool.false_eq_true, List.mem_cons, String.reduceEq, or_self, ↓reduceDIte,
    Progress.started_compiled, hplace, hto, addFlags, NameMap.contains, NameMap.get?_empty,
    Option.isSome_none, hn, NameMap.get?_insert]
  rfl

/-- Plain recursion finds the flags of an order that flattening finds after a place was flattened.
-/
theorem expansion_delivery : delivery.Nonrecursive "acme.Order" ∧
    delivery.expansion "acme.Order" = some (.ok ⟨"Order", "acme.Order",
      .ofList [("n", ⟨.int32, false⟩), ("to.zip", ⟨.string, true⟩)]⟩) := by
  have hnonrecursive : delivery.Nonrecursive "acme.Order" := by
    intro a _ hcycle
    obtain ⟨b, hout, -⟩ := Relation.TransGen.head'_iff.1 hcycle
    obtain ⟨b', -, hin⟩ := Relation.TransGen.tail'_iff.1 hcycle
    have heq := (delivery_embeds hout).1.symm.trans (delivery_embeds hin).2
    simp at heq
  refine ⟨hnonrecursive, ?_⟩
  rw [flatten_eq_expansion (.call .fresh (congrArg Answer.result delivery_place)) hnonrecursive,
    delivery_order_after_place]

end Flattener

end ServiceCli
