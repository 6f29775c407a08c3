import ServiceCli.Flag.Flattener
import ServiceCli.Proofs.Flag.Embedding

/-!
What holds of flattening because it holds of each of its steps, and the states that successful
flattenings lead to.
-/
namespace ServiceCli.Flattener

variable {c : Catalog}

theorem mem_nest {field path : String} {flags : NameMap FlagType} {type : FlagType} :
    (path, type) ∈ nest field flags ↔ ∃ sub, flags.get? sub = some type ∧
      path = Text.lower (Text.lower field ++ "." ++ sub) := by
  simp only [nest, List.mem_map, NameMap.get?_eq_some_iff]
  constructor
  · rintro ⟨⟨sub, _⟩, hmem, heq⟩
    obtain ⟨rfl, rfl⟩ := Prod.mk.inj heq
    exact ⟨sub, hmem, rfl⟩
  · rintro ⟨sub, hmem, rfl⟩
    exact ⟨(sub, type), hmem, rfl⟩

theorem mem_paths_nest {field path : String} {flags : NameMap FlagType} :
    path ∈ (nest field flags).map (·.1) ↔ ∃ sub, flags.contains sub ∧
      path = Text.lower (Text.lower field ++ "." ++ sub) := by
  have hmem : path ∈ (nest field flags).map (·.1) ↔ ∃ type, (path, type) ∈ nest field flags := by
    simp
  simp only [hmem, mem_nest, NameMap.contains_iff]
  constructor
  · rintro ⟨type, sub, htype, rfl⟩
    exact ⟨sub, ⟨type, htype⟩, rfl⟩
  · rintro ⟨sub, ⟨type, htype⟩, rfl⟩
    exact ⟨type, sub, htype, rfl⟩

theorem get?_addFlags {flags more : NameMap FlagType} {new : List (String × FlagType)}
    {path : String} {type : FlagType} (h : addFlags flags new = .ok more) :
    more.get? path = some type ↔ flags.get? path = some type ∨ (path, type) ∈ new := by
  induction new generalizing flags with
  | nil =>
    obtain rfl : flags = more := Except.ok.inj h
    simp
  | cons e new ih =>
    obtain ⟨first, given⟩ := e
    simp only [addFlags] at h
    split at h
    · cases h
    · rename_i hnew
      rw [ih h, NameMap.get?_insert, List.mem_cons, ← or_assoc]
      refine or_congr_left ?_
      by_cases hpath : path = first
      · have hnone : flags.get? path = none := by
          simpa [NameMap.contains, hpath] using hnew
        rw [if_pos hpath, hnone]
        simp [hpath, eq_comm]
      · simp [hpath]

theorem contains_addFlags {flags more : NameMap FlagType} {new : List (String × FlagType)}
    {path : String} (h : addFlags flags new = .ok more) :
    more.contains path ↔ flags.contains path ∨ path ∈ new.map (·.1) := by
  simp [NameMap.contains_iff, get?_addFlags h, exists_or]

/-- The fields of a message type, or some of them. -/
def FieldsOf (c : Catalog) (message : String) (fs : List Field) : Prop :=
  ∃ m, c.message? message = some m ∧ ∀ f ∈ fs, f ∈ m.fields

theorem FieldsOf.of_message {name : String} {m : MessageType} (hm : c.message? name = some m) :
    FieldsOf c name m.fields :=
  ⟨m, hm, fun _ => id⟩

theorem FieldsOf.head {message : String} {f : Field} {fs : List Field}
    (h : FieldsOf c message (f :: fs)) : FieldsOf c message [f] := by
  obtain ⟨m, hm, hfs⟩ := h
  exact ⟨m, hm, by simpa using hfs f List.mem_cons_self⟩

theorem FieldsOf.tail {message : String} {f : Field} {fs : List Field}
    (h : FieldsOf c message (f :: fs)) : FieldsOf c message fs := by
  obtain ⟨m, hm, hfs⟩ := h
  exact ⟨m, hm, fun g hg => hfs g (List.mem_cons_of_mem _ hg)⟩

theorem FieldsOf.embeds {message name : String} {f : Field} (h : FieldsOf c message [f])
    (hembed : f.contribution = .embedded name) : c.Embeds message name := by
  obtain ⟨m, hm, hfs⟩ := h
  exact .of_field hm (hfs f List.mem_cons_self) hembed

section Embedded

variable {active : List String} {message name : String} {f : Field} {p : Progress}

theorem fieldFlags_of_active (h : f.contribution = .embedded name) (hactive : name ∈ active) :
    fieldFlags c active message f p =
      (.ok [], p.note (.recursionSkipped message f.name name)) := by
  simp only [fieldFlags, h, dif_pos hactive]

theorem fieldFlags_of_known {s : FlagSchema} (h : f.contribution = .embedded name)
    (hactive : name ∉ active) (hs : p.compiled.get? name = some s) :
    fieldFlags c active message f p = (.ok (nest f.name s.flags), p) := by
  simp only [fieldFlags, h, dif_neg hactive, hs]

theorem fieldFlags_of_unknown (h : f.contribution = .embedded name) (hactive : name ∉ active)
    (hnone : p.compiled.get? name = none) (hm : c.message? name = none) :
    fieldFlags c active message f p = (.error ⟨.unknownMessage name, active⟩, p) := by
  rw [fieldFlags]
  simp only [h, dif_neg hactive, hnone]
  split
  · rfl
  · simp_all

/-- The fields of a message type that is not remembered are gone through. -/
theorem fieldFlags_of_new {m : MessageType} (h : f.contribution = .embedded name)
    (hactive : name ∉ active) (hnone : p.compiled.get? name = none)
    (hm : c.message? name = some m) :
    fieldFlags c active message f p =
      match flattenFields c (name :: active) name m.fields .empty (p.started name) with
      | (.error e, q) => (.error e, q)
      | (.ok flags, q) =>
        (.ok (nest f.name flags), q.completed name ⟨m.name, m.fullName, flags⟩) := by
  rw [fieldFlags]
  simp only [h, dif_neg hactive, hnone]
  split
  · simp_all
  · rename_i m' hm'
    obtain rfl : m' = m := Option.some.inj (hm'.symm.trans hm)
    rfl

end Embedded

/-- The answer of a step that adds flags, with the progress after it. -/
abbrev Outcome (α : Type) := Except Interruption α × Progress

section Traversal

variable {P : List String → String → Field → Progress → Outcome (List (String × FlagType)) → Prop}
  {Q : List String → String → List Field → NameMap FlagType → Progress →
    Outcome (NameMap FlagType) → Prop}

/-- `P` holds of the flags of every field and `Q` of those of every list of fields if each way of
getting them keeps both. Steps that walk no message type leave what is remembered as it is. -/
theorem traversal
    (flag : ∀ {active : List String} {message : String} {f : Field} {p : Progress}
      {type : FlagType}, f.contribution = .flag type →
      P active message f p (.ok [(Text.lower f.name, type)], p))
    (silent : ∀ {active : List String} {message : String} {f : Field} {p q : Progress},
      f.contribution = .nothing ∨ f.contribution = .otherMap →
      q.compiled = p.compiled → q.walks = p.walks →
      (q.events = p.events ∨ q.events = p.events ++ [.mapSkipped message f.name]) →
      P active message f p (.ok [], q))
    (unsupported : ∀ {active : List String} {message : String} {f : Field} {p : Progress}
      {kind : UnsupportedKind}, f.contribution = .unsupported kind →
      P active message f p (.error ⟨.unsupportedFieldKind message f.name kind, active⟩, p))
    (cut : ∀ {active : List String} {message : String} {f : Field} {p q : Progress} {name : String},
      f.contribution = .embedded name → name ∈ active →
      q.compiled = p.compiled → q.walks = p.walks →
      q.events = p.events ++ [.recursionSkipped message f.name name] →
      P active message f p (.ok [], q))
    (known : ∀ {active : List String} {message : String} {f : Field} {p : Progress} {name : String}
      {s : FlagSchema}, f.contribution = .embedded name → name ∉ active →
      p.compiled.get? name = some s → P active message f p (.ok (nest f.name s.flags), p))
    (unknown : ∀ {active : List String} {message : String} {f : Field} {p : Progress}
      {name : String}, f.contribution = .embedded name → name ∉ active →
      p.compiled.get? name = none → c.message? name = none →
      P active message f p (.error ⟨.unknownMessage name, active⟩, p))
    (interrupted : ∀ {active : List String} {message : String} {f : Field} {p : Progress}
      {name : String} {m : MessageType} {e : Interruption} {q : Progress},
      f.contribution = .embedded name →
      name ∉ active → p.compiled.get? name = none → c.message? name = some m →
      flattenFields c (name :: active) name m.fields .empty (p.started name) = (.error e, q) →
      Q (name :: active) name m.fields .empty (p.started name) (.error e, q) →
      P active message f p (.error e, q))
    (walked : ∀ {active : List String} {message : String} {f : Field} {p : Progress} {name : String}
      {m : MessageType} {flags : NameMap FlagType} {q : Progress}, f.contribution = .embedded name →
      name ∉ active → p.compiled.get? name = none → c.message? name = some m →
      flattenFields c (name :: active) name m.fields .empty (p.started name) = (.ok flags, q) →
      Q (name :: active) name m.fields .empty (p.started name) (.ok flags, q) →
      P active message f p
        (.ok (nest f.name flags), q.completed name ⟨m.name, m.fullName, flags⟩))
    (nil : ∀ {active : List String} {message : String} {flags : NameMap FlagType} {p : Progress},
      Q active message [] flags p (.ok flags, p))
    (failed : ∀ {active : List String} {message : String} {f : Field} {fs : List Field}
      {flags : NameMap FlagType} {p : Progress} {e : Interruption} {q : Progress},
      P active message f p (.error e, q) →
      Q active message (f :: fs) flags p (.error e, q))
    (collision : ∀ {active : List String} {message : String} {f : Field} {fs : List Field}
      {flags : NameMap FlagType} {p : Progress} {new : List (String × FlagType)} {q : Progress}
      {path : String}, P active message f p (.ok new, q) →
      addFlags flags new = .error path →
      Q active message (f :: fs) flags p (.error ⟨.flagCollision message path, active⟩, q))
    (cons : ∀ {active : List String} {message : String} {f : Field} {fs : List Field}
      {flags : NameMap FlagType} {p : Progress} {new : List (String × FlagType)} {q : Progress}
      {more : NameMap FlagType} {out : Outcome (NameMap FlagType)},
      fieldFlags c active message f p = (.ok new, q) → P active message f p (.ok new, q) →
      addFlags flags new = .ok more → flattenFields c active message fs more q = out →
      Q active message fs more q out →
      Q active message (f :: fs) flags p out) :
    (∀ active message f p, P active message f p (fieldFlags c active message f p)) ∧
      ∀ active message fs flags p,
        Q active message fs flags p (flattenFields c active message fs flags p) := by
  apply fieldFlags.mutual_induct c
  case case1 =>
    intro active message f p type h
    simpa only [fieldFlags, h] using flag h
  case case2 =>
    intro active message f p h
    simpa only [fieldFlags, h] using silent (.inl h) rfl rfl (.inl rfl)
  case case3 =>
    intro active message f p h
    simp only [fieldFlags, h]
    exact silent (.inr h) rfl rfl (.inr rfl)
  case case4 =>
    intro active message f p kind h
    simpa only [fieldFlags, h] using unsupported h
  case case5 =>
    intro active message f p name h hactive
    exact fieldFlags_of_active (c := c) h hactive ▸ cut h hactive rfl rfl rfl
  case case6 =>
    intro active message f p name h hactive s hs
    exact fieldFlags_of_known (c := c) h hactive hs ▸ known h hactive hs
  case case7 =>
    intro active message f p name h hactive hnone hm
    exact fieldFlags_of_unknown h hactive hnone hm ▸ unknown h hactive hnone hm
  case case8 =>
    intro active message f p name h hactive hnone m hm e q hrun ih
    have hstep : fieldFlags c active message f p = (.error e, q) := by
      rw [fieldFlags_of_new h hactive hnone hm, hrun]
    exact hstep ▸ interrupted h hactive hnone hm hrun (hrun ▸ ih)
  case case9 =>
    intro active message f p name h hactive hnone m hm flags q hrun ih
    have hstep : fieldFlags c active message f p =
        (.ok (nest f.name flags), q.completed name ⟨m.name, m.fullName, flags⟩) := by
      rw [fieldFlags_of_new h hactive hnone hm, hrun]
    exact hstep ▸ walked h hactive hnone hm hrun (hrun ▸ ih)
  case case10 =>
    intro active message flags p
    simpa only [flattenFields] using nil
  case case11 =>
    intro active message flags p f fs e q hf ih
    simpa only [flattenFields, hf] using failed (hf ▸ ih)
  case case12 =>
    intro active message flags p f fs new q hf path hadd ih
    simpa only [flattenFields, hf, hadd] using collision (hf ▸ ih) hadd
  case case13 =>
    intro active message flags p f fs new q hf more hadd ih ihs
    simpa only [flattenFields, hf, hadd] using cons hf (hf ▸ ih) hadd rfl ihs

/-- What is remembered has a property that is kept when one more message type is. -/
theorem memo_traversal {I : NameMap FlagSchema → Prop}
    (walked : ∀ {active : List String} {name m flags} {p q : Progress},
      c.message? name = some m → p.compiled.get? name = none → name ∈ active →
      flattenFields c active name m.fields .empty p = (.ok flags, q) → I q.compiled →
      I (q.compiled.insert name ⟨m.name, m.fullName, flags⟩)) :
    (∀ active message f p, I p.compiled → I (fieldFlags c active message f p).2.compiled) ∧
      ∀ active message fs flags p, I p.compiled →
        I (flattenFields c active message fs flags p).2.compiled := by
  apply traversal
    (P := fun _ _ _ p out => I p.compiled → I out.2.compiled)
    (Q := fun _ _ _ _ p out => I p.compiled → I out.2.compiled)
  case flag | unsupported | known | unknown | nil =>
    intros
    assumption
  case silent =>
    intro active message f p q _ hq _ _ hp
    rwa [hq]
  case cut =>
    intro active message f p q name _ _ hq _ _ hp
    rwa [hq]
  case interrupted =>
    intro active message f p name m e q _ _ _ _ _ ih hp
    exact ih hp
  case walked =>
    intro active message f p name m flags q _ _ hnone hm hrun ih hp
    exact walked (p := p.started name) hm hnone List.mem_cons_self hrun (ih hp)
  case failed =>
    intro active message f fs flags p e q ih hp
    exact ih hp
  case collision =>
    intro active message f fs flags p new q path ih _ hp
    exact ih hp
  case cons =>
    intro active message f fs flags p new q more out _ ih _ _ ihs hp
    exact ihs (ih hp)

end Traversal

variable {s : Flattener} {name : String}

theorem flatten_of_known {schema : FlagSchema} (h : s.compiled.get? name = some schema) :
    s.flatten c name = ⟨.ok schema, s, []⟩ := by
  simp only [flatten, h]

theorem flatten_of_unknown (h : s.compiled.get? name = none) (hm : c.message? name = none) :
    s.flatten c name = ⟨.error (.unknownMessage name), s, []⟩ := by
  simp only [flatten, h, hm]

/-- A message type without fields has no flags. -/
theorem flatten_of_fieldless {m : MessageType} (h : s.compiled.get? name = none)
    (hm : c.message? name = some m) (hfields : m.fields = []) :
    (s.flatten c name).result = .ok ⟨m.name, m.fullName, .empty⟩ := by
  simp only [flatten, h, hm, hfields, flattenFields]

/-- The progress with which a flattening of a message type begins. -/
def begun (s : Flattener) (name : String) : Progress :=
  (Progress.mk s.compiled s.walks []).started name

@[simp] theorem begun_compiled (s : Flattener) (name : String) :
    (s.begun name).compiled = s.compiled := rfl

@[simp] theorem Progress.started_compiled (p : Progress) (name : String) :
    (p.started name).compiled = p.compiled := rfl

@[simp] theorem Progress.completed_compiled (p : Progress) (name : String) (f : FlagSchema) :
    (p.completed name f).compiled = p.compiled.insert name f := rfl

/-- The message types that are active while the fields of `name` are gone through. -/
def marks (s : Flattener) (name : String) : List String :=
  if name ∈ s.inProgress then s.inProgress else name :: s.inProgress

theorem mem_marks {s : Flattener} {a : String} :
    a ∈ s.marks name ↔ a = name ∨ a ∈ s.inProgress := by
  unfold marks
  split
  · rename_i hname
    exact ⟨.inr, Or.rec (fun h => h ▸ hname) id⟩
  · exact List.mem_cons

theorem marks_of_mem {s : Flattener} (h : name ∈ s.inProgress) : s.marks name = s.inProgress :=
  if_pos h

/-- A message type that is not remembered is flattened by going through its fields. -/
theorem flatten_of_new {s : Flattener} {m : MessageType} (hnone : s.compiled.get? name = none)
    (hm : c.message? name = some m) :
    (∃ i q, flattenFields c (s.marks name) name m.fields .empty (s.begun name) = (.error i, q) ∧
      s.flatten c name = ⟨.error i.failure, ⟨q.compiled, i.active, q.walks⟩, q.events⟩) ∨
    ∃ flags q, flattenFields c (s.marks name) name m.fields .empty (s.begun name) =
        (.ok flags, q) ∧
      s.flatten c name = ⟨.ok ⟨m.name, m.fullName, flags⟩,
        ⟨q.compiled.insert name ⟨m.name, m.fullName, flags⟩, s.inProgress.filter (· ≠ name),
          q.walks⟩, q.events⟩ := by
  simp only [flatten, hnone, hm, marks, begun]
  cases hrun : flattenFields c (if name ∈ s.inProgress then s.inProgress else name :: s.inProgress)
      name m.fields .empty ((Progress.mk s.compiled s.walks []).started name) with
  | mk r q =>
    cases r with
    | error i => exact .inl ⟨i, q, rfl, rfl⟩
    | ok flags => exact .inr ⟨flags, q, rfl, rfl⟩

/-- With nothing in progress, only the message type itself is active when its fields are walked. -/
theorem flatten_of_idle {m : MessageType} (hidle : s.inProgress = [])
    (h : s.compiled.get? name = none) (hm : c.message? name = some m) :
    (∃ e q, flattenFields c [name] name m.fields .empty (s.begun name) = (.error e, q) ∧
      s.flatten c name = ⟨.error e.failure, ⟨q.compiled, e.active, q.walks⟩, q.events⟩) ∨
    ∃ flags q, flattenFields c [name] name m.fields .empty (s.begun name) = (.ok flags, q) ∧
      s.flatten c name = ⟨.ok ⟨m.name, m.fullName, flags⟩,
        ⟨q.compiled.insert name ⟨m.name, m.fullName, flags⟩, [], q.walks⟩, q.events⟩ := by
  have hmarks : s.marks name = [name] := by simp [marks, hidle]
  simpa [hmarks, hidle] using flatten_of_new h hm

/-- A flattening keeps what is kept when one more message type is remembered, even if it fails. -/
theorem memo_flatten {I : NameMap FlagSchema → Prop}
    (walked : ∀ {active : List String} {name m flags} {p q : Progress},
      c.message? name = some m → p.compiled.get? name = none → name ∈ active →
      flattenFields c active name m.fields .empty p = (.ok flags, q) → I q.compiled →
      I (q.compiled.insert name ⟨m.name, m.fullName, flags⟩)) (h : I s.compiled) :
    I (s.flatten c name).flattener.compiled := by
  cases hmemo : s.compiled.get? name with
  | some schema => rwa [flatten_of_known hmemo]
  | none =>
    cases hm : c.message? name with
    | none => rwa [flatten_of_unknown hmemo hm]
    | some m =>
      have hwalk := (memo_traversal walked).2 (s.marks name) name m.fields .empty (s.begun name) h
      obtain ⟨i, q, hrun, hflatten⟩ | ⟨flags, q, hrun, hflatten⟩ := flatten_of_new hmemo hm
      · rw [hrun] at hwalk
        rwa [hflatten]
      · rw [hrun] at hwalk
        rw [hflatten]
        exact walked hm (p := s.begun name) hmemo (mem_marks.2 (.inl rfl)) hrun hwalk

/-- A message type that was flattened is remembered with its flags. -/
theorem get?_of_ok {schema : FlagSchema} (hok : (s.flatten c name).result = .ok schema) :
    (s.flatten c name).flattener.compiled.get? name = some schema := by
  cases hmemo : s.compiled.get? name with
  | some f =>
    rw [flatten_of_known hmemo] at hok ⊢
    rw [hmemo, Except.ok.inj hok]
  | none =>
    cases hm : c.message? name with
    | none =>
      rw [flatten_of_unknown hmemo hm] at hok
      simp at hok
    | some m =>
      obtain ⟨i, q, -, h⟩ | ⟨flags, q, -, h⟩ := flatten_of_new hmemo hm
      · simp [h] at hok
      · rw [h] at hok ⊢
        rw [← Except.ok.inj hok]
        exact NameMap.get?_insert_self ..

/-- The fields of the first message type that is flattened. -/
theorem fresh_ok {schema : FlagSchema}
    (hok : (({} : Flattener).flatten c name).result = .ok schema) :
    ∃ m flags q, c.message? name = some m ∧
      flattenFields c [name] name m.fields .empty (begun {} name) = (.ok flags, q) ∧
      ({} : Flattener).flatten c name = ⟨.ok ⟨m.name, m.fullName, flags⟩,
        ⟨q.compiled.insert name ⟨m.name, m.fullName, flags⟩, [], q.walks⟩, q.events⟩ := by
  have hmemo : ({} : Flattener).compiled.get? name = none := rfl
  cases hm : c.message? name with
  | none =>
    rw [flatten_of_unknown hmemo hm] at hok
    simp at hok
  | some m =>
    obtain ⟨e, q, -, h⟩ | ⟨flags, q, hrun, h⟩ := flatten_of_idle rfl hmemo hm
    · simp [h] at hok
    · exact ⟨m, flags, q, rfl, hrun, h⟩

/-- The states that any number of flattenings lead to, none of which failed. -/
inductive Served (c : Catalog) : Flattener → Prop where
  | fresh : Served c {}
  | call {s : Flattener} {name : String} {schema : FlagSchema} : Served c s →
      (s.flatten c name).result = .ok schema → Served c (s.flatten c name).flattener

theorem Served.idle (h : Served c s) : s.inProgress = [] := by
  induction h with
  | fresh => rfl
  | @call s name schema _ hok ih =>
    cases hmemo : s.compiled.get? name with
    | some f => rwa [flatten_of_known hmemo]
    | none =>
      cases hm : c.message? name with
      | none => rwa [flatten_of_unknown hmemo hm]
      | some m =>
        obtain ⟨e, q, -, h⟩ | ⟨flags, q, -, h⟩ := flatten_of_idle ih hmemo hm
        · simp [h] at hok
        · rw [h]

/-- What is remembered after successful flattenings has a property that every one of them keeps. -/
theorem Served.remembered {I : NameMap FlagSchema → Prop} (hs : Served c s) (fresh : I .empty)
    (walked : ∀ {s : Flattener} {name m flags q}, Served c s → I s.compiled →
      s.compiled.get? name = none → c.message? name = some m →
      flattenFields c [name] name m.fields .empty (s.begun name) = (.ok flags, q) →
      I (q.compiled.insert name ⟨m.name, m.fullName, flags⟩)) : I s.compiled := by
  induction hs with
  | fresh => exact fresh
  | @call s name schema hs hok ih =>
    cases hmemo : s.compiled.get? name with
    | some f => rwa [flatten_of_known hmemo]
    | none =>
      cases hm : c.message? name with
      | none => rwa [flatten_of_unknown hmemo hm]
      | some m =>
        obtain ⟨e, q, -, h⟩ | ⟨flags, q, hrun, h⟩ := flatten_of_idle hs.idle hmemo hm
        · simp [h] at hok
        · rw [h]
          exact walked hs ih hmemo hm hrun

end ServiceCli.Flattener
