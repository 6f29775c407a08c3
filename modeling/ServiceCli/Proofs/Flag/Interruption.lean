import Mathlib
import ServiceCli.Proofs.Flag.Coverage

/-!
What a flattening that fails leaves behind: the message types that it was going through stay marked.
The next flattening of the same message type takes their fields for recursive ones. It fails in the
same way only if the failure arose in the fields of the message type itself.
-/
namespace ServiceCli.Flattener

variable {c : Catalog} {active : List String} {message name : String} {p q : Progress}

/-- The fields of the message type `a` make this failure. -/
def ArisesIn (c : Catalog) (a : String) : Failure → Prop
  | .unsupportedFieldKind message .. => message = a
  | .flagCollision message _ => message = a
  | .unknownMessage b => c.Embeds a b ∧ c.message? b = none
  | _ => False

/-- How the fields of `message` come to an interruption while the types in `active` are marked. -/
inductive Fails (c : Catalog) : List String → String → Interruption → Prop where
  | here {active : List String} {message : String} {failure : Failure} :
      ArisesIn c message failure → Fails c active message ⟨failure, active⟩
  | inside {active : List String} {message name : String} {e : Interruption} :
      c.Embeds message name → name ∉ active → Fails c (name :: active) name e →
      Fails c active message e

theorem fails_traversal :
    (∀ active message f p, FieldsOf c message [f] → ∀ e,
      (fieldFlags c active message f p).1 = .error e → Fails c active message e) ∧
    ∀ active message fs flags p, FieldsOf c message fs → ∀ e,
      (flattenFields c active message fs flags p).1 = .error e → Fails c active message e := by
  apply traversal
    (P := fun active message f _ out => FieldsOf c message [f] → ∀ e, out.1 = .error e →
      Fails c active message e)
    (Q := fun active message fs _ _ out => FieldsOf c message fs → ∀ e, out.1 = .error e →
      Fails c active message e)
  case flag | silent | cut | known | walked | nil =>
    intros
    simp_all
  case unsupported =>
    intro active message f p kind _ _ e he
    exact Except.error.inj he ▸ .here rfl
  case unknown =>
    intro active message f p name h _ _ hm hf e he
    exact Except.error.inj he ▸ .here ⟨hf.embeds h, hm⟩
  case interrupted =>
    intro active message f p name m e q h hactive _ hm _ ih hf e' he
    obtain rfl := Except.error.inj he
    exact .inside (hf.embeds h) hactive (ih (.of_message hm) e rfl)
  case failed =>
    intro active message f fs flags p e q ih hfs e' he
    obtain rfl := Except.error.inj he
    exact ih hfs.head e rfl
  case collision =>
    intro active message f fs flags p new q path _ _ _ e he
    exact Except.error.inj he ▸ .here rfl
  case cons =>
    intro active message f fs flags p new q more out _ _ _ _ ihs hfs
    exact ihs hfs.tail

/-- The marks that an interruption adds are those of a chain of embeddings, the last one first, to
the message type in whose fields the failure arises. -/
theorem Fails.trail {e : Interruption} (h : Fails c active message e) :
    ∃ trail, e.active = trail ++ active ∧ trail.Nodup ∧ (∀ a ∈ trail, a ∉ active) ∧
      (trail ++ [message]).IsChain (fun b a => c.Embeds a b) ∧
      ∃ a, (trail ++ [message]).head? = some a ∧ ArisesIn c a e.failure := by
  induction h with
  | here h => exact ⟨[], rfl, List.nodup_nil, by simp, by simp, _, rfl, h⟩
  | @inside active message name e hembeds hactive _ ih =>
    obtain ⟨trail, hmarks, hnodup, hnew, hchain, a, ha, hcause⟩ := ih
    refine ⟨trail ++ [name], by simp [hmarks], ?_, ?_, ?_, a, ?_, hcause⟩
    · refine List.nodup_append.2 ⟨hnodup, List.nodup_singleton name, ?_⟩
      rintro b hb _ hname rfl
      exact hnew b hb (List.mem_singleton.1 hname ▸ List.mem_cons_self)
    · intro b hb
      rcases List.mem_append.1 hb with hb | hb
      · exact fun hmem => hnew b hb (List.mem_cons_of_mem _ hmem)
      · exact List.mem_singleton.1 hb ▸ hactive
    · refine List.isChain_append.2 ⟨hchain, List.isChain_singleton _, ?_⟩
      simpa using hembeds
    · simpa [List.head?_append] using ha

/-- `memo` remembers what a step that succeeded knew. After a step that failed it is what the step
left, and the failure added no marks. -/
def Fits {α : Type} (active : List String) (out : Outcome α) (memo : NameMap FlagSchema) : Prop :=
  match out.1 with
  | .ok _ => Grows out.2.compiled memo
  | .error e => e.active = active ∧ memo = out.2.compiled

theorem Fits.grows {α : Type} {out : Outcome α} {memo : NameMap FlagSchema}
    (h : Fits active out memo) : Grows out.2.compiled memo := by
  unfold Fits at h
  split at h
  · exact h
  · exact fun _ _ => h.2 ▸ id

/-- While `memo` is remembered, the step gives this answer and remembers nothing new. -/
def Answers {α : Type} (step : Progress → Outcome α) (answer : Except Interruption α)
    (memo : NameMap FlagSchema) : Prop :=
  ∀ r : Progress, r.compiled = memo → ∃ r', step r = (answer, r') ∧ r'.compiled = memo

/-- A failure inside an embedded message adds its mark. -/
theorem active_ne_of_inside {m : MessageType} {e : Interruption} (hm : c.message? name = some m)
    (hrun : flattenFields c (name :: active) name m.fields .empty p = (.error e, q)) :
    e.active ≠ active := by
  have hfails := fails_traversal.2 (name :: active) name m.fields .empty p (.of_message hm) e
    (by rw [hrun])
  obtain ⟨trail, hmarks, -⟩ := hfails.trail
  intro heq
  have hlength := congrArg List.length (hmarks.symm.trans heq)
  simp at hlength
  omega

/-- What succeeds gives the same flags again, and a failure that adds no marks comes again. -/
theorem answers_traversal :
    (∀ active message f p memo, Fits active (fieldFlags c active message f p) memo →
      Answers (fieldFlags c active message f) (fieldFlags c active message f p).1 memo) ∧
    ∀ active message fs flags p memo, Fits active (flattenFields c active message fs flags p) memo →
      Answers (flattenFields c active message fs flags)
        (flattenFields c active message fs flags p).1 memo := by
  apply traversal
    (P := fun active message f _ out => ∀ memo, Fits active out memo →
      Answers (fieldFlags c active message f) out.1 memo)
    (Q := fun active message fs flags _ out => ∀ memo, Fits active out memo →
      Answers (flattenFields c active message fs flags) out.1 memo)
  case flag =>
    intro active message f p type h memo _ r hr
    exact ⟨r, by simp only [fieldFlags, h], hr⟩
  case silent =>
    intro active message f p q h _ _ _ memo _ r hr
    rcases h with h | h
    · exact ⟨r, by simp only [fieldFlags, h], hr⟩
    · exact ⟨r.note (.mapSkipped message f.name), by simp only [fieldFlags, h], hr⟩
  case unsupported =>
    intro active message f p kind h memo _ r hr
    exact ⟨r, by simp only [fieldFlags, h], hr⟩
  case cut =>
    intro active message f p q name h hactive _ _ _ memo _ r hr
    exact ⟨_, fieldFlags_of_active h hactive, hr⟩
  case known =>
    intro active message f p name s h hactive hs memo hfits r hr
    exact ⟨r, fieldFlags_of_known h hactive (hr ▸ hfits.grows name s hs), hr⟩
  case unknown =>
    intro active message f p name h hactive hnone hm memo hfits r hr
    exact ⟨r, fieldFlags_of_unknown h hactive (hr ▸ hfits.2 ▸ hnone) hm, hr⟩
  case interrupted =>
    intro active message f p name m e q _ _ _ hm hrun _ memo hfits
    exact absurd hfits.1 (active_ne_of_inside hm hrun)
  case walked =>
    intro active message f p name m flags q h hactive _ _ _ _ memo hfits r hr
    have hknown := hfits.grows name ⟨m.name, m.fullName, flags⟩ (NameMap.get?_insert_self ..)
    exact ⟨r, fieldFlags_of_known h hactive (hr ▸ hknown), hr⟩
  case nil =>
    intro active message flags p memo _ r hr
    exact ⟨r, by simp only [flattenFields], hr⟩
  case failed =>
    intro active message f fs flags p e q ih memo hfits r hr
    obtain ⟨r', hstep, hr'⟩ := ih memo hfits r hr
    exact ⟨r', by simp only [flattenFields, hstep], hr'⟩
  case collision =>
    intro active message f fs flags p new q path ih hadd memo hfits r hr
    obtain ⟨r', hstep, hr'⟩ := ih memo hfits.grows r hr
    exact ⟨r', by simp only [flattenFields, hstep, hadd], hr'⟩
  case cons =>
    intro active message f fs flags p new q more out _ ih hadd hrun ihs memo hfits r hr
    -- What the rest of the fields leaves behind includes what this field has made known.
    have hrest := ((extends_traversal (c := c)).2 active message fs more q).grows
    rw [hrun] at hrest
    obtain ⟨r', hstep, hr'⟩ := ih memo (fun a s ha => hfits.grows a s (hrest a s ha)) r hr
    obtain ⟨r'', hsteps, hr''⟩ := ihs memo hfits r' hr'
    exact ⟨r'', by simp only [flattenFields, hstep, hadd, hsteps], hr''⟩

/-- The fields of a message type fail where flattening it does. -/
theorem flatten_of_error {s : Flattener} {m : MessageType} {e : Failure}
    (hnone : s.compiled.get? name = none) (hm : c.message? name = some m)
    (h : (s.flatten c name).result = .error e) :
    ∃ marked q, flattenFields c (s.marks name) name m.fields .empty (s.begun name) =
        (.error ⟨e, marked⟩, q) ∧
      (s.flatten c name).flattener = ⟨q.compiled, marked, q.walks⟩ := by
  obtain ⟨i, q, hrun, hflatten⟩ | ⟨flags, q, -, hflatten⟩ := flatten_of_new hnone hm
  · rw [hflatten] at h ⊢
    obtain rfl : i.failure = e := Except.error.inj h
    exact ⟨i.active, q, hrun, rfl⟩
  · rw [hflatten] at h
    cases h

/-- A flattening fails in the fields of some message type, or for want of the message type. -/
theorem exists_arisesIn {s : Flattener} {e : Failure} (h : (s.flatten c name).result = .error e) :
    e = .unknownMessage name ∨ ∃ a, ArisesIn c a e := by
  cases hmemo : s.compiled.get? name with
  | some schema =>
    rw [flatten_of_known hmemo] at h
    cases h
  | none =>
    cases hm : c.message? name with
    | none =>
      rw [flatten_of_unknown hmemo hm] at h
      exact .inl (Except.error.inj h).symm
    | some m =>
      obtain ⟨marked, q, hrun, -⟩ := flatten_of_error hmemo hm h
      have hfails := fails_traversal.2 (s.marks name) name m.fields .empty (s.begun name)
        (.of_message hm) _ (by rw [hrun])
      obtain ⟨-, -, -, -, -, a, -, hcause⟩ := hfails.trail
      exact .inr ⟨a, hcause⟩

theorem flatten_of_fields {s : Flattener} {m : MessageType} {i : Interruption} {q : Progress}
    (hnone : s.compiled.get? name = none) (hm : c.message? name = some m)
    (h : flattenFields c (s.marks name) name m.fields .empty (s.begun name) = (.error i, q)) :
    (s.flatten c name).result = .error i.failure ∧
      (s.flatten c name).flattener = ⟨q.compiled, i.active, q.walks⟩ := by
  obtain ⟨i', q', hrun, hflatten⟩ | ⟨flags, q', hrun, -⟩ := flatten_of_new hnone hm
  · cases h.symm.trans hrun
    simp [hflatten]
  · cases h.symm.trans hrun

theorem spares_marked {s : Flattener} {m : MessageType} {i : Interruption}
    {q : Progress} (hnone : s.compiled.get? name = none)
    (hrun : flattenFields c (s.marks name) name m.fields .empty (s.begun name) = (.error i, q)) :
    q.compiled.get? name = none := by
  have hext := extends_traversal (c := c).2 (s.marks name) name m.fields .empty (s.begun name)
  rw [hrun] at hext
  exact hext.spares name (mem_marks.2 (.inl rfl)) hnone

/-- A failed flattening has come along `trail`, whose last message type comes first and makes the
failure. The message types of `trail` stay marked. -/
structure Abandoned (c : Catalog) (s : Flattener) (name : String) (e : Failure)
    (trail : List String) : Prop where
  marked : ∀ a, a ∈ (s.flatten c name).flattener.inProgress ↔ a ∈ trail ∨ a ∈ s.inProgress
  unmarked : ∀ a ∈ trail, a ∈ s.inProgress → a = name
  distinct : trail.Nodup
  linked : trail.IsChain fun b a => c.Embeds a b
  cause : (trail = [] ∧ c.message? name = none ∧ e = .unknownMessage name) ∨
    trail.getLast? = some name ∧ ∃ a, trail.head? = some a ∧ ArisesIn c a e

/-- Only what cannot be found is reported of two message types. -/
theorem ArisesIn.eq_or {a b : String} {e : Failure} (ha : ArisesIn c a e) (hb : ArisesIn c b e) :
    a = b ∨ ∃ x, e = .unknownMessage x := by
  cases e with
  | unsupportedFieldKind => exact .inl (ha.symm.trans hb)
  | flagCollision => exact .inl (ha.symm.trans hb)
  | unknownMessage x => exact .inr ⟨x, rfl⟩
  | _ => exact ha.elim

variable {s : Flattener} {e : Failure}

theorem abandoned_of_unknown (hnone : s.compiled.get? name = none) (hm : c.message? name = none)
    (h : (s.flatten c name).result = .error e) : Abandoned c s name e [] where
  marked a := by simp [flatten_of_unknown hnone hm]
  unmarked a ha := absurd ha List.not_mem_nil
  distinct := List.nodup_nil
  linked := .nil
  cause := .inl ⟨rfl, hm, by simpa [flatten_of_unknown hnone hm, eq_comm] using h⟩

/-- A failure in the fields of the message type itself comes again. -/
theorem flatten_again_of_own {m : MessageType} {q : Progress}
    (hnone : s.compiled.get? name = none) (hm : c.message? name = some m)
    (hrun : flattenFields c (s.marks name) name m.fields .empty (s.begun name) =
      (.error ⟨e, s.marks name⟩, q)) :
    ((s.flatten c name).flattener.flatten c name).result = .error e ∧
      ((s.flatten c name).flattener.flatten c name).flattener.inProgress =
        (s.flatten c name).flattener.inProgress := by
  have hname : name ∈ s.marks name := mem_marks.2 (.inl rfl)
  have hafter := (flatten_of_fields hnone hm hrun).2
  have hnone' := spares_marked hnone hrun
  obtain ⟨r, hagain, hr⟩ := answers_traversal.2 (s.marks name) name m.fields .empty (s.begun name)
    q.compiled (by rw [hrun]; exact ⟨rfl, rfl⟩)
    (begun ⟨q.compiled, s.marks name, q.walks⟩ name) rfl
  rw [hrun] at hagain
  rw [hafter]
  obtain ⟨hresult, hmarks⟩ := flatten_of_fields (s := ⟨q.compiled, s.marks name, q.walks⟩) hnone' hm
    (by rw [marks_of_mem hname]; exact hagain)
  exact ⟨hresult, by rw [hmarks]⟩

/-- Once the message types that lead to a failure are marked, the failure does not come again, unless
it is a message type that cannot be found and another field embeds it too. -/
theorem unknown_of_again {m : MessageType} {q : Progress} {a : String} {marked : List String}
    (hnone : s.compiled.get? name = none) (hm : c.message? name = some m)
    (hrun : flattenFields c (s.marks name) name m.fields .empty (s.begun name) =
      (.error ⟨e, marked⟩, q))
    (hname : name ∈ marked) (hne : a ≠ name) (ha : a ∈ marked) (hcause : ArisesIn c a e)
    (hagain : ((s.flatten c name).flattener.flatten c name).result = .error e) :
    ∃ x, e = .unknownMessage x := by
  rw [(flatten_of_fields hnone hm hrun).2] at hagain
  have hnone' := spares_marked hnone hrun
  obtain ⟨marked', q', hrun', -⟩ := flatten_of_error (s := ⟨q.compiled, marked, q.walks⟩) hnone' hm
    hagain
  rw [marks_of_mem hname] at hrun'
  have hfails := fails_traversal.2 marked name m.fields .empty _ (.of_message hm) _ (by rw [hrun'])
  obtain ⟨trail, -, -, hnew, -, b, hb, hcause'⟩ := hfails.trail
  refine (hcause.eq_or hcause').resolve_left fun heq => ?_
  rcases List.mem_append.1 (List.mem_of_head? hb) with hb | hb
  · exact hnew b hb (heq ▸ ha)
  · exact hne (heq.trans (List.mem_singleton.1 hb))

/-- In the fields of a known message type, a flattening fails along a trail that begins there. -/
theorem abandoned_of_known {m : MessageType} (hnone : s.compiled.get? name = none)
    (hm : c.message? name = some m) (h : (s.flatten c name).result = .error e) :
    ∃ inner q, Abandoned c s name e (inner ++ [name]) ∧ name ∉ inner ∧
      flattenFields c (s.marks name) name m.fields .empty (s.begun name) =
        (.error ⟨e, inner ++ s.marks name⟩, q) := by
  obtain ⟨marked, q, hrun, hafter⟩ := flatten_of_error hnone hm h
  have hfails := fails_traversal.2 (s.marks name) name m.fields .empty (s.begun name)
    (.of_message hm) _ (by rw [hrun])
  obtain ⟨inner, rfl, hnodup, hnew, hlinked, hcause⟩ := hfails.trail
  have hname : name ∉ inner := fun hmem => hnew name hmem (mem_marks.2 (.inl rfl))
  refine ⟨inner, q, ⟨fun a => ?_, fun a ha hmarked => ?_, ?_, hlinked, .inr ⟨by simp, hcause⟩⟩,
    hname, hrun⟩
  · rw [hafter]
    simp only [List.mem_append, mem_marks, List.mem_singleton, or_assoc]
  · rcases List.mem_append.1 ha with ha | ha
    · exact absurd (mem_marks.2 (.inr hmarked)) (hnew a ha)
    · exact List.mem_singleton.1 ha
  · have hconcat := hnodup.concat hname
    rwa [List.concat_eq_append] at hconcat

theorem Abandoned.unchanged_iff {trail : List String} (h : Abandoned c s name e trail) :
    (∀ a, a ∈ (s.flatten c name).flattener.inProgress ↔ a ∈ s.inProgress) ↔
      ∀ a ∈ trail, a = name ∧ name ∈ s.inProgress := by
  simp only [h.marked]
  constructor
  · intro hsame a ha
    have hmem := (hsame a).1 (.inl ha)
    exact ⟨h.unmarked a ha hmem, h.unmarked a ha hmem ▸ hmem⟩
  · intro htrail a
    refine ⟨Or.rec (fun ha => ?_) id, .inr⟩
    obtain ⟨rfl, hmem⟩ := htrail a ha
    exact hmem

/-- Whatever happened before, a flattening that fails leaves the message types that led to the
failure marked. If the failure arose in the message type itself, or this cannot be found, the same
happens again. Otherwise the failure does not come again, or it is about a message type that cannot
be found. -/
theorem flatten_again (c : Catalog) (s : Flattener) (name : String) (e : Failure)
    (h : (s.flatten c name).result = .error e) : ∃ trail, Abandoned c s name e trail ∧
      ((∀ a, a ∈ (s.flatten c name).flattener.inProgress ↔ a ∈ s.inProgress) ↔
        ∀ a ∈ trail, a = name ∧ name ∈ s.inProgress) ∧
      (trail.length ≤ 1 → ((s.flatten c name).flattener.flatten c name).result = .error e ∧
        ((s.flatten c name).flattener.flatten c name).flattener.inProgress =
          (s.flatten c name).flattener.inProgress) ∧
      (1 < trail.length → ((s.flatten c name).flattener.flatten c name).result = .error e →
        ∃ x, e = .unknownMessage x) := by
  cases hmemo : s.compiled.get? name with
  | some schema =>
    rw [flatten_of_known hmemo] at h
    cases h
  | none =>
    cases hm : c.message? name with
    | none =>
      have habandoned := abandoned_of_unknown hmemo hm h
      refine ⟨[], habandoned, habandoned.unchanged_iff, fun _ => ?_, fun hlength => ?_⟩
      · rw [flatten_of_unknown hmemo hm] at h ⊢
        rw [flatten_of_unknown hmemo hm]
        exact ⟨h, rfl⟩
      · simp at hlength
    | some m =>
      obtain ⟨inner, q, habandoned, hname, hrun⟩ := abandoned_of_known hmemo hm h
      refine ⟨inner ++ [name], habandoned, habandoned.unchanged_iff, fun hlength => ?_,
        fun hlength => ?_⟩
      · obtain rfl : inner = [] := by simpa using hlength
        exact flatten_again_of_own hmemo hm hrun
      · have hinner : inner ≠ [] := by
          rintro rfl
          simp at hlength
        obtain ⟨-, a, ha, hcause⟩ := habandoned.cause.resolve_left (by simp)
        have hmem : a ∈ inner := by
          rw [List.head?_append_of_ne_nil _ hinner] at ha
          exact List.mem_of_head? ha
        exact unknown_of_again hmemo hm hrun
          (List.mem_append_right _ (mem_marks.2 (.inl rfl))) (fun heq => hname (heq ▸ hmem))
          (List.mem_append_left _ hmem) hcause

/-- A message type that embeds one with a field of an unsupported kind. -/
def workshop : Catalog where
  messages.entries :=
    [("acme.Job", ⟨"Job", "acme.Job",
      [⟨"on", .scalar .bool, false⟩, ⟨"tool", .message "acme.Tool", false⟩]⟩),
     ("acme.Tool", ⟨"Tool", "acme.Tool", [⟨"kit", .group "acme.Kit", false⟩]⟩)]
  messages.ascending := by decide

theorem workshop_job : ({} : Flattener).flatten workshop "acme.Job" =
    ⟨.error (.unsupportedFieldKind "acme.Tool" "kit" (.group "acme.Kit")),
      ⟨.empty, ["acme.Tool", "acme.Job"], 2⟩,
      [.flattening "acme.Job", .flattening "acme.Tool"]⟩ := by
  cbv

/-- The failure of a job arises in its tool, so it does not come again. -/
theorem workshop_job_again :
    (({} : Flattener).flatten workshop "acme.Job").result =
      .error (.unsupportedFieldKind "acme.Tool" "kit" (.group "acme.Kit")) ∧
    ((({} : Flattener).flatten workshop "acme.Job").flattener.flatten workshop "acme.Job").result ≠
      .error (.unsupportedFieldKind "acme.Tool" "kit" (.group "acme.Kit")) := by
  have hjob := congrArg Answer.result workshop_job
  refine ⟨hjob, fun hagain => ?_⟩
  obtain ⟨trail, habandoned, -, -, honce⟩ := flatten_again workshop {} "acme.Job" _ hjob
  obtain ⟨-, -, hunknown⟩ | ⟨hbegins, a, hends, hcause⟩ := habandoned.cause
  · cases hunknown
  · have hlength : 1 < trail.length := by
      match trail, hbegins, hends with
      | [_], rfl, rfl => simp [ArisesIn] at hcause
      | _ :: _ :: _, _, _ => simp
    obtain ⟨x, hx⟩ := honce hlength hagain
    cases hx

/-- After its failure a job is answered without the flags of its tool, and both stay marked. -/
theorem workshop_job_forgotten :
    ¬∀ (s : Flattener) (name : String) (e : Failure), (s.flatten workshop name).result = .error e →
      (∀ a, a ∈ (s.flatten workshop name).flattener.inProgress ↔ a ∈ s.inProgress) ∧
        ((s.flatten workshop name).flattener.flatten workshop name).result = .error e := by
  intro h
  obtain ⟨-, hagain⟩ := h {} "acme.Job" _ (congrArg Answer.result workshop_job)
  have hok : ((({} : Flattener).flatten workshop "acme.Job").flattener.flatten workshop
      "acme.Job").result = .ok ⟨"Job", "acme.Job", .ofList [("on", ⟨.bool, false⟩)]⟩ := by
    rw [workshop_job]
    cbv
  rw [hok] at hagain
  cases hagain

end ServiceCli.Flattener
