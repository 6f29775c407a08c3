import ServiceCli.Proofs.Generation.Sets
import ServiceCli.Proofs.Source.Arguments

/-!
The flags of the commands of a file. Every command without others below it finds the flags of its
request type among those of the file, and none of them is called like the flag that takes the whole
request.
-/
namespace ServiceCli

/-- A command stands somewhere among these commands or below them. -/
inductive Command.Within : Command → List Command → Prop where
  | top {c : Command} {cs : List Command} : c ∈ cs → Within c cs
  | deeper {c d : Command} {cs : List Command} : d ∈ cs → Within c d.children → Within c cs

theorem Command.not_within_nil (c : Command) : ¬c.Within [] := by
  rintro (hc | ⟨hd, -⟩)
  · cases hc
  · cases hd

theorem Command.Within.of_flatten {c : Command} {trees : List (List Command)}
    (h : c.Within trees.flatten) : ∃ cs ∈ trees, c.Within cs := by
  cases h with
  | top hc =>
    obtain ⟨cs, hcs, hc⟩ := List.mem_flatten.1 hc
    exact ⟨cs, hcs, .top hc⟩
  | deeper hd hc =>
    obtain ⟨cs, hcs, hd⟩ := List.mem_flatten.1 hd
    exact ⟨cs, hcs, .deeper hd hc⟩

/-- The commands of a service that have none below them are those of its methods. -/
theorem CommandTree.Arranged.of_childless {layout : Layout} {s : Service}
    {groups : List (String × List Entry)} {cs : List Command} (h : Arranged layout s groups cs)
    {c : Command} (hc : c.Within cs) (hchildless : c.children = []) :
    c.hasRequest = true ∧ ∃ m ∈ s.methods, c.requestType = some m.inputType := by
  cases hc with
  | top hc =>
    -- A group has commands below it.
    obtain ⟨g, hg, hgroup⟩ := exists_of_forall₂ h.commands.flip hc
    have hnone := hgroup.children
    rw [hchildless, List.forall₂_nil_right_iff] at hnone
    exact absurd hnone (h.inhabited g hg)
  | deeper hd hc =>
    obtain ⟨g, hg, hgroup⟩ := exists_of_forall₂ h.commands.flip hd
    cases hc with
    | top hc =>
      obtain ⟨e, he, hleaf⟩ := exists_of_forall₂ hgroup.children.flip hc
      obtain ⟨m, hm, hentry⟩ := h.mem_entries.1 ⟨g, hg, he⟩
      obtain ⟨-, hleaf⟩ := leafOf_iff.1 hleaf
      refine ⟨hleaf.hasRequest, m, hm, ?_⟩
      rw [hleaf.requestType, (Method.entry?_eq_some.1 hentry).2]
    | deeper hd hc =>
      obtain ⟨e, -, hleaf⟩ := exists_of_forall₂ hgroup.children.flip hd
      rw [(leafOf_iff.1 hleaf).2.children] at hc
      exact absurd hc (Command.not_within_nil c)

theorem Catalog.Keyed.insertMessage {c : Catalog} (h : c.Keyed) (m : MessageType) :
    (c.insertMessage m).Keyed := by
  intro name type htype
  have hget : (c.messages.insert m.fullName m).get? name = some type := htype
  rw [NameMap.get?_insert] at hget
  split at hget
  · rename_i hname
    rw [hname, ← Option.some.inj hget]
  · exact h name type hget

theorem Catalog.keyed_foldl_insertMessage {c : Catalog} (h : c.Keyed) (ms : List MessageType) :
    (ms.foldl Catalog.insertMessage c).Keyed := by
  induction ms generalizing c with
  | nil => exact h
  | cons m ms ih => exact ih (h.insertMessage m)

namespace Generation

open Flattener (Served)

variable {c : Catalog} {settings : Settings} {α : Type} {nameOf : String → String}
  {write : FilePlan → Except Stop α} {fs : List ServiceFile} {flattener : Flattener}
  {f : ServiceFile} {p : FilePlan}

/-- The command takes the whole request and has the flags of its request type, which are added by
`function`. All these arguments have different names. -/
structure Equipped (p : FilePlan) (command : Command) (t : String) (x : FlagSchema)
    (function : String) : Prop where
  takes : command.hasRequest = true
  type : command.requestType = some t
  flags : p.flagsets.get? t = some x
  found : (Source.flagsFunctionNames p.flagsets).lookup t = some function
  registers : (Source.commandItem p.requestShort command (some function)).registered ++
    (Source.flagsItem function x).registered =
      (requestFlag :: x.flags.keys).map Source.Expr.ofText
  distinct : (requestFlag :: x.flags.keys).Nodup

theorem nodup_keys {β : Type} (m : NameMap β) : m.keys.Nodup := by
  rw [NameMap.keys, List.Nodup, List.pairwise_map]
  refine m.ascending.imp fun hlt heq => ?_
  rw [heq] at hlt
  exact String.lt_irrefl _ hlt

theorem Comes.equipped (h : Comes c settings nameOf write fs flattener f p)
    (hserved : Served c flattener) {command : Command} (hc : command.Within p.commands)
    (hchildless : command.children = []) : ∃ t x function, Equipped p command t x function := by
  obtain ⟨trees, htrees, hcommands⟩ := h.commands
  rw [hcommands] at hc
  obtain ⟨cs, hcs, hc⟩ := hc.of_flatten
  obtain ⟨s, hs, htree⟩ := exists_of_forall₂ htrees.flip hcs
  obtain ⟨groups, harranged⟩ := commandsOf_arranged htree
  obtain ⟨htakes, m, hm, htype⟩ := harranged.of_childless hc hchildless
  have hcontains := (h.contains_iff m.inputType).2 ⟨s, hs, m, hm, rfl⟩
  obtain ⟨x, hx⟩ := NameMap.contains_iff.1 hcontains
  obtain ⟨function, hfunction⟩ := Option.isSome_iff_exists.1 (Source.isSome_lookup_flags hcontains)
  obtain ⟨flattener', hkept⟩ := h.kept hserved
  refine ⟨m.inputType, x, function, htakes, htype, hx, hfunction, ?_, ?_⟩
  · rw [Source.registered_commandItem, Source.registered_flagsItem, if_pos htakes]
    rfl
  · refine List.nodup_cons.2 ⟨fun hmem => hkept.free _ x hx ?_, nodup_keys x.flags⟩
    obtain ⟨⟨_, type⟩, hentry, rfl⟩ := List.mem_map.1 hmem
    exact NameMap.contains_iff.2 ⟨type, NameMap.get?_eq_some_iff.2 hentry⟩

/-- If message types are registered under their own names and a run comes to writing a file, then
its sets of flags are those of the request types of all its methods, each under the name of its
message type, and none has the reserved flag. Every command without others below it has one of these
sets, and the source of the file does not fail for want of one. -/
theorem flagsets_of_comes (files : List ServiceFile) (messages : List MessageType)
    (settings : Settings) {α : Type} (nameOf : String → String) (write : FilePlan → Except Stop α)
    (f : ServiceFile) (p : FilePlan)
    (h : Comes (messages.foldl Catalog.insertMessage { files := files }) settings nameOf write files
      {} f p) :
    (∀ t, p.flagsets.contains t = true ↔ ∃ s ∈ f.services, ∃ m ∈ s.methods, m.inputType = t) ∧
    (∀ t x, p.flagsets.get? t = some x →
      x.fullName = t ∧ x.flags.contains requestFlag = false) ∧
    (∀ command, Command.Within command p.commands → command.children = [] →
      ∃ t x function, Equipped p command t x function) ∧
    ∀ t name, Source.render p ≠ .error (.failure (.codeGeneration (.missingFlags t name))) := by
  have hkeyed : (messages.foldl Catalog.insertMessage { files := files }).Keyed :=
    Catalog.keyed_foldl_insertMessage (fun name m hm => by cases hm) messages
  refine ⟨h.contains_iff, fun t x hx => ⟨?_, ?_⟩, fun command => h.equipped .fresh,
    fun t name hrender => ?_⟩
  · obtain ⟨m, hm, -, hname⟩ := h.titled .fresh t x hx
    exact hname.trans (hkeyed t m hm)
  · obtain ⟨flattener', hkept⟩ := h.kept .fresh
    exact Bool.eq_false_iff.2 (hkept.free t x hx)
  · obtain ⟨n, hn⟩ | ⟨first, second, function, hshared⟩ :=
      Source.items_stop h.known (render_eq_error.1 hrender)
    · cases hn
    · cases hshared

/-- Two methods with one request type, of which one has a command, and a third without one. -/
def desk : Service where
  name := "Desk"
  fullName := "acme.Desk"
  methods :=
    [⟨"GetLamp", "acme.Desk.GetLamp", "acme.Lamp", {}⟩,
     ⟨"Ping", "acme.Desk.Ping", "acme.Lamp", {}⟩,
     ⟨"Pong", "acme.Desk.Pong", "acme.Note", {}⟩]

def deskFile : ServiceFile := ⟨"acme.proto", [desk]⟩

def deskMessages : List MessageType :=
  [⟨"Lamp", "acme.Lamp", [⟨"on", .scalar .bool, false⟩]⟩,
   ⟨"Note", "acme.Note", [⟨"text", .scalar .string, false⟩]⟩]

def desks : Catalog := deskMessages.foldl Catalog.insertMessage { files := [deskFile] }

def lampFlags : FlagSchema := ⟨"Lamp", "acme.Lamp", .ofList [("on", ⟨.bool, false⟩)]⟩

def noteFlags : FlagSchema := ⟨"Note", "acme.Note", .ofList [("text", ⟨.string, false⟩)]⟩

theorem flatten_lamp : ({} : Flattener).flatten desks "acme.Lamp" =
    ⟨.ok lampFlags, ⟨.ofList [("acme.Lamp", lampFlags)], [], 1⟩, [.flattening "acme.Lamp"]⟩ := by
  cbv

theorem flatten_note :
    ((({} : Flattener).flatten desks "acme.Lamp").flattener.flatten desks "acme.Note").result =
      .ok noteFlags := by
  rw [flatten_lamp]
  cbv

def deskSets : NameMap FlagSchema := .ofList [("acme.Lamp", lampFlags), ("acme.Note", noteFlags)]

theorem gathered_desk : gathered desks ⟨{}, .empty⟩ (deskFile.services.flatMap (·.methods)) =
    .ok ⟨((({} : Flattener).flatten desks "acme.Lamp").flattener.flatten desks
      "acme.Note").flattener, deskSets⟩ := by
  have hlamp := congrArg Flattener.Answer.result flatten_lamp
  show gathered desks ⟨{}, .empty⟩ desk.methods = _
  refine gathered_cons.2 ⟨_, gather_eq_ok.2 (.inr ⟨by decide, _, hlamp, by decide, rfl⟩), ?_⟩
  refine gathered_cons.2 ⟨_, gather_eq_ok.2 (.inl ⟨by decide, rfl⟩), ?_⟩
  exact gathered_cons.2
    ⟨_, gather_eq_ok.2 (.inr ⟨by decide, _, flatten_note, by decide, rfl⟩), rfl⟩

def deskTable : VerbTable := ⟨[⟨"lamp", [⟨"get", "acme.Lamp"⟩]⟩]⟩

theorem registered_desk : desk.methods.foldlM registered .empty = .ok deskTable := by
  decide +kernel

theorem commandsOf_desk :
    commandsOf .verb desk = .ok (CommandTree.commands "Desk" deskTable .verb) := by
  have hcheck : CommandTree.checkCommands [] [] (CommandTree.commands "Desk" deskTable .verb) =
      .ok ["desk_get_lamp", "desk_get"] := by decide +kernel
  rw [commandsOf, registered_desk]
  exact CommandTree.assemble_eq_ok.2 ⟨rfl, _, hcheck⟩

def deskPlan : FilePlan where
  source := "acme.proto"
  commands := [CommandTree.commands "Desk" deskTable .verb].flatten
  flagsets := deskSets
  requestShort := some 'd'

theorem comes_desk :
    Comes desks {} Source.fileName generatedFile [deskFile] {} deskFile deskPlan := by
  have htrees : Trees .verb deskFile.services [CommandTree.commands "Desk" deskTable .verb] :=
    .cons commandsOf_desk .nil
  have hplan : (plan desks {} deskFile {}).outcome = .ok (deskPlan, _) :=
    plan_eq_ok.2 ⟨_, deskSets, htrees, gathered_desk, rfl⟩
  exact comes_iff.2 ⟨{}, ⟨by decide, [], [], [], rfl, rfl⟩, _, hplan⟩

def lampCommand : Command := CommandTree.Entry.leaf "Desk" .verb ⟨"lamp", "get", "acme.Lamp"⟩

theorem within_desk : lampCommand.Within deskPlan.commands := by
  have hgroups : CommandTree.groups deskTable .verb =
      [("get", [⟨"lamp", "get", "acme.Lamp"⟩])] := by decide
  have hcommands : deskPlan.commands = CommandTree.commands "Desk" deskTable .verb :=
    List.append_nil _
  rw [hcommands, CommandTree.commands, hgroups]
  exact .deeper List.mem_cons_self (.top List.mem_cons_self)

/-- The file has the flags of both request types. A command takes those of the lamp, while the note
belongs to a method without a command. -/
theorem flagsets_desk :
    Comes desks {} Source.fileName generatedFile [deskFile] {} deskFile deskPlan ∧
    deskPlan.flagsets.contains "acme.Note" = true ∧
    (∃ t x function, Equipped deskPlan lampCommand t x function) ∧
    ∀ t name, Source.render deskPlan ≠
      .error (.failure (.codeGeneration (.missingFlags t name))) := by
  obtain ⟨hsets, -, hequipped, hrender⟩ := flagsets_of_comes [deskFile] deskMessages {}
    Source.fileName generatedFile deskFile deskPlan comes_desk
  refine ⟨comes_desk, (hsets "acme.Note").2 ⟨desk, by simp [deskFile], ?_⟩,
    hequipped lampCommand within_desk rfl, hrender⟩
  exact ⟨⟨"Pong", "acme.Desk.Pong", "acme.Note", {}⟩, by simp [desk], rfl⟩

end Generation

end ServiceCli
