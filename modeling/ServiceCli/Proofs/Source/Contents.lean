import ServiceCli.Proofs.Sequence
import ServiceCli.Proofs.Source.Arguments
import ServiceCli.Proofs.Source.FlagNames

/-!
What a generated file holds. Where names are identifiers, only flags that are missing and functions
that two sets of flags share keep a file from being written, and a file that is written defines all
functions that it refers to.
-/
namespace ServiceCli

namespace CommandTree

mutual

/-- All commands below a command, and then the command itself. -/
def postorder : Command → List Command
  | ⟨name, alias?, children, requestType, hasRequest, runnable⟩ =>
    postorderOf children ++ [⟨name, alias?, children, requestType, hasRequest, runnable⟩]

def postorderOf : List Command → List Command
  | [] => []
  | c :: cs => postorder c ++ postorderOf cs

end

theorem postorder_eq (c : Command) : postorder c = postorderOf c.children ++ [c] := by
  cases c
  rfl

theorem mem_postorderOf_self {cs : List Command} {c : Command} (h : c ∈ cs) :
    c ∈ postorderOf cs := by
  induction cs with
  | nil => cases h
  | cons d cs ih =>
    rw [postorderOf, List.mem_append]
    obtain rfl | h := List.mem_cons.1 h
    · exact .inl (by simp [postorder_eq])
    · exact .inr (ih h)

mutual

theorem children_mem_postorder {c d child : Command} (hd : d ∈ postorder c)
    (hchild : child ∈ d.children) : child ∈ postorder c := by
  match c with
  | ⟨name, alias?, children, requestType, hasRequest, runnable⟩ =>
    rw [postorder_eq, List.mem_append] at hd ⊢
    obtain hd | hd := hd
    · exact .inl (children_mem_postorderOf hd hchild)
    · obtain rfl := List.mem_singleton.1 hd
      exact .inl (mem_postorderOf_self hchild)

theorem children_mem_postorderOf {cs : List Command} {d child : Command} (hd : d ∈ postorderOf cs)
    (hchild : child ∈ d.children) : child ∈ postorderOf cs := by
  match cs with
  | [] => cases hd
  | c :: cs =>
    rw [postorderOf, List.mem_append] at hd ⊢
    exact hd.imp (children_mem_postorder · hchild) (children_mem_postorderOf · hchild)

end

mutual

theorem stem_mem_stems {c d : Command} (hd : d ∈ postorder c) : d.stem ∈ stems c := by
  match c with
  | ⟨name, alias?, children, requestType, hasRequest, runnable⟩ =>
    rw [postorder_eq, List.mem_append] at hd
    rw [stems_eq]
    obtain hd | hd := hd
    · exact List.mem_cons_of_mem _ (stem_mem_stemsOf hd)
    · obtain rfl := List.mem_singleton.1 hd
      exact List.mem_cons_self

theorem stem_mem_stemsOf {cs : List Command} {d : Command} (hd : d ∈ postorderOf cs) :
    d.stem ∈ stemsOf cs := by
  match cs with
  | [] => cases hd
  | c :: cs =>
    rw [postorderOf, List.mem_append] at hd
    rw [stemsOf, List.mem_append]
    exact hd.imp stem_mem_stems stem_mem_stemsOf

end

end CommandTree

namespace Source

open CommandTree (postorder postorderOf postorder_eq)

variable {plan : FilePlan} {functions : List (String × String)} {short : Option Char}

namespace Expr

theorem mentions_methods (e : Expr) (calls : List (String × List Expr)) :
    (e.methods calls).mentions = e.mentions ++ calls.flatMap fun call => mentionsOfAll call.2 := by
  induction calls generalizing e with
  | nil => simp [methods]
  | cons call calls ih => rw [methods_cons, ih, mentions, List.flatMap_cons, List.append_assoc]

end Expr

/-- Names with a suffix are too long for the variable that holds a command. -/
theorem append_ne_commandVariable (stem : String) {suffix : String} (h : 3 < suffix.length) :
    stem ++ suffix ≠ commandVariable := by
  intro heq
  have hlength := congrArg String.length heq
  rw [String.length_append, show commandVariable.length = 3 from rfl] at hlength
  omega

theorem mentions_requestArgument (short : Option Char) : (requestArgument short).mentions = [] := by
  rw [requestArgument, Expr.mentions_methods]
  cases short <;> rfl

theorem mentions_commandCalls (short : Option Char) (c : Command) :
    ((commandCalls short c).flatMap fun call => Expr.mentionsOfAll call.2) =
      c.children.map commandFunction := by
  have hchildren : ((c.children.map fun child =>
      (("subcommand", [.call (.ident (commandFunction child)) []]) : String × List Expr)).flatMap
        fun call => Expr.mentionsOfAll call.2) = c.children.map commandFunction := by
    rw [List.flatMap_map, List.map_eq_flatMap]
    rfl
  have halias : (c.alias?.map fun a =>
      (("alias", [Expr.ofText a]) : String × List Expr)).toList.flatMap
        (fun call => Expr.mentionsOfAll call.2) = [] := by
    cases c.alias? <;> rfl
  rw [commandCalls]
  simp only [List.flatMap_append, hchildren, halias]
  split <;> split <;>
    simp [Expr.mentionsOfAll, Expr.ofBool, Expr.mentions, mentions_requestArgument]

/-- A command refers to the functions of the commands below it and to that of its flags. -/
theorem references_commandItem (short : Option Char) (c : Command) {flags : Option String}
    (h : ∀ f ∈ flags, f ≠ commandVariable) :
    (Item.function (commandItem short c flags)).references =
      c.children.map commandFunction ++ flags.toList := by
  have hstart : ((commandItem short c flags).start.map Expr.mentions).getD [] =
      c.children.map commandFunction := by
    show ((Expr.call (.verbatim "::clap::Command::new") [.ofText c.useName]).methods
      (commandCalls short c)).mentions = _
    rw [Expr.mentions_methods, mentions_commandCalls]
    rfl
  have hchildren : (c.children.map commandFunction).filter (· ≠ commandVariable) =
      c.children.map commandFunction := by
    refine List.filter_eq_self.2 fun n hn => ?_
    obtain ⟨child, -, rfl⟩ := List.mem_map.1 hn
    exact decide_eq_true (append_ne_commandVariable child.stem (by decide))
  rw [Item.references, hstart, List.filter_append, hchildren]
  congr 1
  cases flags with
  | none => rfl
  | some f =>
    have hf : f ≠ commandVariable := h f rfl
    simp [commandItem, Expr.mentions, Expr.mentionsOfAll, hf]

/-- The parser of the generated file that the values of a kind need. -/
def parserName? : FlagKind → Option String
  | .stringMap => some keyValueParserName
  | .bytes => some base64ParserName
  | _ => none

theorem mentions_parserCalls (t : FlagType) :
    ((parserCalls t).flatMap fun call => Expr.mentionsOfAll call.2) =
      (parserName? t.kind).toList := by
  rw [parserCalls]
  cases t.kind <;> cases t.slice <;> rfl

theorem mentions_flagArgument (path : String) (t : FlagType) :
    (flagArgument path t).mentions = (parserName? t.kind).toList := by
  have hdefault : (t.default.literal?.map fun value =>
      (("default_value", [Expr.ofText value]) : String × List Expr)).toList.flatMap
        (fun call => Expr.mentionsOfAll call.2) = [] := by
    cases t.default.literal? <;> rfl
  rw [flagArgument, Expr.mentions_methods, List.flatMap_append, List.flatMap_append,
    mentions_parserCalls, hdefault, List.append_nil]
  rfl

/-- A set of flags refers to the parsers of its flags. -/
theorem references_flagsItem (function : String) (s : FlagSchema) :
    (Item.function (flagsItem function s)).references =
      s.types.filterMap fun t => parserName? t.kind := by
  have hparser (kind : FlagKind) : ∀ n ∈ parserName? kind, n ≠ commandVariable := by
    cases kind <;> simp [parserName?] <;> decide
  have hresult : (flagsItem function s).result.mentions =
      commandVariable :: s.types.filterMap fun t => parserName? t.kind := by
    rw [flagsItem, Expr.mentions_methods, List.flatMap_map, FlagSchema.types, NameMap.values,
      List.filterMap_map, List.filterMap_eq_flatMap_toList]
    simp [Expr.mentions, Expr.mentionsOfAll, mentions_flagArgument]
  rw [Item.references, hresult]
  simp only [flagsItem, Option.map_none, Option.getD_none, List.nil_append, ne_eq,
    not_true_eq_false, decide_false, Bool.false_eq_true, not_false_eq_true, List.filter_cons_of_neg]
  refine List.filter_eq_self.2 fun n hn => ?_
  obtain ⟨t, -, ht⟩ := List.mem_filterMap.1 hn
  simpa using hparser t.kind n ht

/-- The function of one command. -/
def functionOf (functions : List (String × String)) (short : Option Char) (c : Command) :
    Except Stop Item := do
  let _ ← identifier (commandFunction c)
  let flags ← commandFlags functions c
  return .function (commandItem short c flags)

mutual

theorem commandItems_eq_mapM (functions : List (String × String)) (short : Option Char)
    (c : Command) :
    commandItems functions short c = (postorder c).mapM (functionOf functions short) := by
  match c with
  | ⟨name, alias?, children, requestType, hasRequest, runnable⟩ =>
    rw [commandItems, commandsItems_eq_mapM, postorder, List.mapM_append, List.mapM_cons,
      List.mapM_nil, functionOf]
    simp only [bind_assoc, pure_bind]

/-- The functions of commands are made one after the other, from below. -/
theorem commandsItems_eq_mapM (functions : List (String × String)) (short : Option Char)
    (cs : List Command) :
    commandsItems functions short cs = (postorderOf cs).mapM (functionOf functions short) := by
  match cs with
  | [] => rfl
  | c :: cs =>
    rw [commandsItems, commandItems_eq_mapM, commandsItems_eq_mapM, postorderOf, List.mapM_append]

end

theorem identifier_of {name : String} (h : Text.isIdentifier name = true) :
    identifier name = .ok name := by
  rw [identifier, if_pos h]

theorem functionOf_eq_ok {c : Command} (hname : Text.isIdentifier (commandFunction c) = true)
    (hflags : ∀ t ∈ c.requestType, ∃ f, functions.lookup t = some f ∧ Text.isIdentifier f = true) :
    functionOf functions short c =
      .ok (.function (commandItem short c (c.requestType.bind (functions.lookup ·)))) := by
  rw [functionOf, identifier_of hname, commandFlags]
  cases hrequest : c.requestType with
  | none => rfl
  | some t =>
    obtain ⟨f, hf, hident⟩ := hflags t hrequest
    simp only [hf, identifier_of hident, Option.bind_some]
    rfl

theorem functionOf_eq_error (short : Option Char) {c : Command} {t : String}
    (hname : Text.isIdentifier (commandFunction c) = true) (hrequest : c.requestType = some t)
    (hmissing : functions.lookup t = none) :
    functionOf functions short c =
      .error (.failure (.codeGeneration (.missingFlags t c.name))) := by
  rw [functionOf, identifier_of hname, commandFlags]
  simp only [hrequest, hmissing]
  rfl

theorem flagsItems_eq_ok {sets : List (FlagSchema × String)}
    (h : ∀ entry ∈ sets, Text.isIdentifier entry.2 = true) :
    flagsItems sets = .ok (sets.map fun entry => .function (flagsItem entry.2 entry.1)) := by
  induction sets with
  | nil => rfl
  | cons entry sets ih =>
    obtain ⟨hentry, hsets⟩ := List.forall_mem_cons.1 h
    rw [flagsItems, identifier_of hentry, ih hsets]
    rfl

/-- The function of a command in the file of a plan. -/
def commandItemOf (plan : FilePlan) (c : Command) : Item :=
  .function (commandItem plan.requestShort c
    (c.requestType.bind ((flagsFunctionNames plan.flagsets).lookup ·)))

/-- The function of a set of flags in the file of a plan. -/
def flagsItemOf (plan : FilePlan) (entry : String × FlagSchema) : Item :=
  .function (flagsItem (flagsStem plan.flagsets.values entry.1 entry.2 ++ "_flags") entry.2)

/-- The functions of commands from below, the parsers that flags need, and the functions of sets of
flags in the order of their full names. -/
def contents (plan : FilePlan) : List Item :=
  (postorderOf plan.commands).map (commandItemOf plan) ++
    (if usesKind plan.flagsets .stringMap then [.keyValueParser] else []) ++
    (if usesKind plan.flagsets .bytes then [.base64Parser] else []) ++
    plan.flagsets.entries.map (flagsItemOf plan)

/-- Every function that an item refers to is one that an item defines. -/
def Closed (is : List Item) : Prop := ∀ i ∈ is, ∀ n ∈ i.references, n ∈ is.map Item.name

/-- Some command has a request type without flags. -/
def LacksFlags (plan : FilePlan) : Prop :=
  ∃ c ∈ postorderOf plan.commands, ∃ t ∈ c.requestType, plan.flagsets.contains t = false

instance (plan : FilePlan) : Decidable (LacksFlags plan) :=
  inferInstanceAs (Decidable (∃ c ∈ postorderOf plan.commands, ∃ t ∈ c.requestType, _))

theorem usesKind_iff {sets : NameMap FlagSchema} {kind : FlagKind} :
    usesKind sets kind = true ↔ ∃ s ∈ sets.values, ∃ t ∈ s.types, t.kind = kind := by
  simp [usesKind]

theorem lookup_eq_none_iff {sets : NameMap FlagSchema} {t : String} :
    (flagsFunctionNames sets).lookup t = none ↔ sets.contains t = false := by
  rw [← Bool.not_eq_true, NameMap.contains_iff, Option.eq_none_iff_forall_ne_some]
  simp only [ne_eq, lookup_flagsFunctionNames, GoesBy]
  constructor
  · rintro h ⟨s, hs⟩
    by_cases hshared : Shared sets t s
    · exact h _ ⟨s, hs, .inr ⟨hshared, rfl⟩⟩
    · exact h _ ⟨s, hs, .inl ⟨hshared, rfl⟩⟩
  · rintro h name ⟨s, hs, -⟩
    exact h ⟨s, hs⟩

theorem zip_flagsNames (sets : NameMap FlagSchema) :
    sets.values.zip (flagsNames sets) =
      sets.entries.map fun entry =>
        (entry.2, flagsStem sets.values entry.1 entry.2 ++ "_flags") := by
  rw [flagsNames, flagsFunctionNames, NameMap.values, List.map_map, List.zip_map']
  rfl

theorem flagsNames_ne_commandVariable {sets : NameMap FlagSchema} {f : String}
    (h : f ∈ flagsNames sets) : f ≠ commandVariable := by
  obtain ⟨fullName, s, -, ⟨-, rfl⟩ | ⟨-, rfl⟩⟩ := mem_flagsNames.1 h <;>
    exact append_ne_commandVariable _ (by decide)

theorem mem_references_commandItemOf {c : Command} {n : String} :
    n ∈ (commandItemOf plan c).references ↔ (∃ child ∈ c.children, commandFunction child = n) ∨
      ∃ t, c.requestType = some t ∧ GoesBy plan.flagsets t n := by
  rw [commandItemOf, references_commandItem, List.mem_append, List.mem_map, Option.mem_toList,
    Option.bind_eq_some_iff]
  · simp only [lookup_flagsFunctionNames]
  · intro f hf
    obtain ⟨t, -, hlookup⟩ := Option.bind_eq_some_iff.1 hf
    exact flagsNames_ne_commandVariable (mem_flagsNames_of_lookup hlookup)

theorem name_mem_contents {i : Item} (h : i ∈ contents plan) :
    i.name ∈ (contents plan).map Item.name :=
  List.mem_map_of_mem h

theorem flagsNames_subset_contents {f : String} (h : f ∈ flagsNames plan.flagsets) :
    f ∈ (contents plan).map Item.name := by
  rw [flagsNames, flagsFunctionNames, List.map_map, List.mem_map] at h
  obtain ⟨entry, hentry, rfl⟩ := h
  exact name_mem_contents (i := flagsItemOf plan entry)
    (List.mem_append_right _ (List.mem_map_of_mem hentry))

theorem mem_contents_keyValueParser :
    Item.keyValueParser ∈ contents plan ↔ usesKind plan.flagsets .stringMap = true := by
  simp [contents, commandItemOf, flagsItemOf]

theorem mem_contents_base64Parser :
    Item.base64Parser ∈ contents plan ↔ usesKind plan.flagsets .bytes = true := by
  simp [contents, commandItemOf, flagsItemOf]

/-- A parser is there if some flag needs it. -/
theorem parserName_mem_contents {s : FlagSchema} (hs : s ∈ plan.flagsets.values) {t : FlagType}
    (ht : t ∈ s.types) {n : String} (hn : parserName? t.kind = some n) :
    n ∈ (contents plan).map Item.name := by
  have huses : usesKind plan.flagsets t.kind = true := usesKind_iff.2 ⟨s, hs, t, ht, rfl⟩
  cases hkind : t.kind with
  | stringMap =>
    rw [hkind] at hn huses
    obtain rfl := Option.some.inj hn
    exact name_mem_contents (mem_contents_keyValueParser.2 huses)
  | bytes =>
    rw [hkind] at hn huses
    obtain rfl := Option.some.inj hn
    exact name_mem_contents (mem_contents_base64Parser.2 huses)
  | _ =>
    rw [hkind] at hn
    cases hn

theorem closed_contents (plan : FilePlan) : Closed (contents plan) := by
  intro i hi n hn
  rw [contents, List.append_assoc, List.append_assoc, List.mem_append, List.mem_append,
    List.mem_append] at hi
  rcases hi with hi | hi | hi | hi
  · obtain ⟨c, hc, rfl⟩ := List.mem_map.1 hi
    rcases mem_references_commandItemOf.1 hn with ⟨child, hchild, rfl⟩ | ⟨t, -, hgoes⟩
    · have hbelow := CommandTree.children_mem_postorderOf hc hchild
      exact name_mem_contents (i := commandItemOf plan child) (by
        simp only [contents, List.append_assoc]
        exact List.mem_append_left _ (List.mem_map_of_mem hbelow))
    · exact flagsNames_subset_contents
        (mem_flagsNames_of_lookup (lookup_flagsFunctionNames.2 hgoes))
  · split at hi
    · obtain rfl := List.mem_singleton.1 hi
      cases hn
    · cases hi
  · split at hi
    · obtain rfl := List.mem_singleton.1 hi
      cases hn
    · cases hi
  · obtain ⟨entry, hentry, rfl⟩ := List.mem_map.1 hi
    rw [flagsItemOf, references_flagsItem] at hn
    obtain ⟨t, ht, hparser⟩ := List.mem_filterMap.1 hn
    exact parserName_mem_contents (List.mem_map_of_mem hentry) ht hparser

section

variable (hnames : ∀ n ∈ functionNames plan, Text.isIdentifier n = true)
include hnames

theorem isIdentifier_commandFunction {c : Command} (hc : c ∈ postorderOf plan.commands) :
    Text.isIdentifier (commandFunction c) = true :=
  hnames _ (List.mem_append_left _ (List.mem_map_of_mem (CommandTree.stem_mem_stemsOf hc)))

theorem isIdentifier_lookup {t f : String}
    (h : (flagsFunctionNames plan.flagsets).lookup t = some f) : Text.isIdentifier f = true :=
  hnames _ (List.mem_append_right _ (mem_flagsNames_of_lookup h))

/-- A file with all flags, each with a function of its own, has its contents. -/
theorem items_eq_ok (hshares : ¬SharesFunction plan.flagsets) (hlacks : ¬LacksFlags plan) :
    items plan = .ok (contents plan) := by
  have hcommands : commandsItems (flagsFunctionNames plan.flagsets) plan.requestShort
      plan.commands = .ok ((postorderOf plan.commands).map (commandItemOf plan)) := by
    rw [commandsItems_eq_mapM, mapM_eq_ok, List.forall₂_map_right_iff, List.forall₂_same]
    refine fun c hc => functionOf_eq_ok (isIdentifier_commandFunction hnames hc) fun t ht => ?_
    cases hlookup : (flagsFunctionNames plan.flagsets).lookup t with
    | none => exact absurd ⟨c, hc, t, ht, lookup_eq_none_iff.1 hlookup⟩ hlacks
    | some f => exact ⟨f, rfl, isIdentifier_lookup hnames hlookup⟩
  have hflags : flagsItems (plan.flagsets.values.zip (flagsNames plan.flagsets)) =
      .ok (plan.flagsets.entries.map (flagsItemOf plan)) := by
    rw [flagsItems_eq_ok, zip_flagsNames, List.map_map]
    · rfl
    · intro entry hentry
      exact hnames _ (List.mem_append_right _ (List.of_mem_zip hentry).2)
  rw [items, flagsFunctions_of_nodup (nodup_flagsNames_iff.2 hshares)]
  dsimp only
  rw [hcommands, ← flagsNames, hflags]
  rfl

theorem items_eq_error (h : SharesFunction plan.flagsets ∨ LacksFlags plan) :
    ∃ e, items plan = .error (.failure (.codeGeneration e)) := by
  cases hfunctions : flagsFunctions plan.flagsets with
  | error e =>
    rw [items, hfunctions]
    exact ⟨e, rfl⟩
  | ok functions =>
    obtain ⟨rfl, hnodup⟩ := flagsFunctions_ok hfunctions
    obtain ⟨c, hc, t, ht, hmissing⟩ := h.resolve_left (nodup_flagsNames_iff.1 hnodup)
    have hstep := functionOf_eq_error plan.requestShort
      (isIdentifier_commandFunction hnames hc) ht (lookup_eq_none_iff.2 hmissing)
    rw [items, hfunctions]
    dsimp only
    rw [commandsItems_eq_mapM]
    cases hall : (postorderOf plan.commands).mapM
        (functionOf (flagsFunctionNames plan.flagsets) plan.requestShort) with
    | ok is =>
      obtain ⟨i, -, hi⟩ := exists_of_forall₂ (mapM_eq_ok.1 hall) hc
      cases hstep.symm.trans hi
    | error stop =>
      -- Whichever command stops it, what stops it are flags that are missing.
      obtain ⟨before, d, after, heq, -, hd⟩ := mapM_eq_error.1 hall
      have hmem : d ∈ postorderOf plan.commands := by simp [heq]
      have hname := isIdentifier_commandFunction hnames hmem
      by_cases hknown : ∃ u ∈ d.requestType, (flagsFunctionNames plan.flagsets).lookup u = none
      · obtain ⟨u, hu, hnone⟩ := hknown
        rw [functionOf_eq_error _ hname hu hnone] at hd
        cases hd
        exact ⟨_, rfl⟩
      · rw [functionOf_eq_ok hname fun u hu => ?_] at hd
        · cases hd
        · obtain ⟨f, hf⟩ := Option.ne_none_iff_exists'.1 fun hnone => hknown ⟨u, hu, hnone⟩
          exact ⟨f, hf, isIdentifier_lookup hnames hf⟩

end

/-- A shelf to which books are added, with a cover and tags. -/
def shelf : FilePlan where
  source := "shelf.proto"
  commands := [.group "ShelfAdd" "add" [.leaf "ShelfAddBook" "book" "lib.Book"]]
  flagsets := .ofList [("lib.Book", ⟨"Book", "lib.Book", .ofList [("title", ⟨.string, false⟩),
    ("tags", ⟨.stringMap, false⟩), ("cover", ⟨.bytes, true⟩)]⟩)]

end Source

end ServiceCli
