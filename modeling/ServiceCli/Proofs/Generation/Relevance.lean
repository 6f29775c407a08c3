import ServiceCli.Proofs.Flag.Relevance
import ServiceCli.Response

/-!
What a run looks at. Apart from the files themselves it reads the message types that embeddings lead
to from the request types of their methods. Whatever else a catalog holds makes no difference to
what is generated, to how the run fails, or to its log.
-/
namespace ServiceCli.Generation

variable {c d : Catalog} {settings : Settings} {layout : Layout}

theorem gather_eq_of_agree {m : Method} (h : c.AgreeFrom d m.inputType) (flags : Flags) :
    gather d flags m = gather c flags m := by
  simp only [gather, Flattener.flatten_eq_of_agree h]

theorem methods_eq_of_agree {ms : List Method} (h : ∀ m ∈ ms, c.AgreeFrom d m.inputType)
    (state : VerbTable × Flags) : methods d ms state = methods c ms state := by
  induction ms generalizing state with
  | nil => rfl
  | cons m ms ih =>
    obtain ⟨hm, hms⟩ := List.forall_mem_cons.1 h
    simp only [methods, gather_eq_of_agree hm, ih hms]

theorem service_eq_of_agree {s : Service} (h : ∀ m ∈ s.methods, c.AgreeFrom d m.inputType)
    (flags : Flags) : service d layout s flags = service c layout s flags := by
  simp only [service, methods_eq_of_agree h]

theorem services_eq_of_agree {ss : List Service}
    (h : ∀ s ∈ ss, ∀ m ∈ s.methods, c.AgreeFrom d m.inputType) (flags : Flags) :
    services d layout ss flags = services c layout ss flags := by
  induction ss generalizing flags with
  | nil => rfl
  | cons s ss ih =>
    obtain ⟨hs, hss⟩ := List.forall_mem_cons.1 h
    simp only [services, service_eq_of_agree hs, ih hss]

theorem plan_eq_of_agree {f : ServiceFile}
    (h : ∀ s ∈ f.services, ∀ m ∈ s.methods, c.AgreeFrom d m.inputType) (flattener : Flattener) :
    plan d settings f flattener = plan c settings f flattener := by
  simp only [plan, services_eq_of_agree h]

section Files

variable {α : Type} {nameOf : String → String} {write : FilePlan → Except Stop α}

theorem files_eq_of_agree {fs : List ServiceFile}
    (h : ∀ f ∈ fs, ∀ s ∈ f.services, ∀ m ∈ s.methods, c.AgreeFrom d m.inputType)
    (flattener : Flattener) :
    files d settings nameOf write fs flattener = files c settings nameOf write fs flattener := by
  induction fs generalizing flattener with
  | nil => rfl
  | cons f fs ih =>
    obtain ⟨hf, hfs⟩ := List.forall_mem_cons.1 h
    simp only [files, plan_eq_of_agree hf, ih hfs]

theorem run_eq_of_agree (hfiles : d.files = c.files)
    (h : ∀ f ∈ c.files, ∀ s ∈ f.services, ∀ m ∈ s.methods, c.AgreeFrom d m.inputType) :
    run nameOf write d settings = run nameOf write c settings := by
  simp only [run, hfiles, files_eq_of_agree h]

end Files

/-- Two catalogs with the same files that agree on every message type that can be reached from a
request type have the same result, down to the log, whatever writes the files. -/
theorem generate_eq_of_agree (c d : Catalog) (settings : Settings) (hfiles : d.files = c.files)
    (h : ∀ f ∈ c.files, ∀ s ∈ f.services, ∀ m ∈ s.methods, ∀ a, c.Reaches m.inputType a →
      c.message? a = d.message? a) :
    (∀ {α : Type} (nameOf : String → String) (write : FilePlan → Except Stop α),
      run nameOf write d settings = run nameOf write c settings) ∧
    generate d settings = generate c settings := by
  have hrun : ∀ {α : Type} (nameOf : String → String) (write : FilePlan → Except Stop α),
      run nameOf write d settings = run nameOf write c settings :=
    fun _ _ => run_eq_of_agree hfiles h
  refine ⟨hrun, ?_⟩
  simp only [generate, hrun]

/-- A member of a club has a list of friends, whose type is in one of the two catalogs only and
could not be flattened. -/
def clubFile : ServiceFile :=
  ⟨"acme.proto", [⟨"Club", "acme.Club", [⟨"GetMember", "acme.Club.GetMember", "acme.Member", {}⟩]⟩]⟩

def member : MessageType :=
  ⟨"Member", "acme.Member",
    [⟨"on", .scalar .bool, false⟩, ⟨"friends", .message "acme.Friend", true⟩]⟩

def club : Catalog where
  files := [clubFile]
  messages.entries := [("acme.Member", member)]
  messages.ascending := by decide

def clubWithFriends : Catalog where
  files := [clubFile]
  messages.entries :=
    [("acme.Friend", ⟨"Friend", "acme.Friend", [⟨"band", .group "acme.Band", false⟩]⟩),
     ("acme.Member", member)]
  messages.ascending := by decide

theorem club_reaches {a : String} (h : club.Reaches "acme.Member" a) : a = "acme.Member" := by
  induction h with
  | refl => rfl
  | tail _ hstep ih =>
    obtain ⟨m, hm, f, hf, hsingle, hkind⟩ := ih ▸ hstep
    obtain rfl : member = m := Option.some.inj hm
    simp only [member, List.mem_cons, List.not_mem_nil, or_false] at hf
    rcases hf with rfl | rfl
    · cases hkind
    · cases hsingle

theorem generate_clubs :
    (clubWithFriends.message? "acme.Friend").isSome = true ∧ club.message? "acme.Friend" = none ∧
      generate clubWithFriends {} = generate club {} := by
  refine ⟨rfl, rfl, (generate_eq_of_agree club clubWithFriends {} rfl ?_).2⟩
  intro f hf s hs m hm a ha
  obtain rfl := List.mem_singleton.1 hf
  obtain rfl := List.mem_singleton.1 hs
  obtain rfl := List.mem_singleton.1 hm
  obtain rfl := club_reaches ha
  rfl

end ServiceCli.Generation
