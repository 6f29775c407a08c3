import ServiceCli.Flag.Nesting
import ServiceCli.Proofs.Flag.Walks

/-!
How far a flattening goes. A message type is gone through only if it is neither remembered nor
active, and from then on it is active, so message types that are gone through one inside the other
are no more than those that are not remembered.
-/
namespace ServiceCli.Flattener

variable {c : Catalog} {active marked : List String} {message name : String} {limit : Nat}
  {memo more : NameMap FlagSchema} {descend : Descent}

/-- The message types of a catalog that are not remembered. -/
def unremembered (c : Catalog) (memo : NameMap FlagSchema) : List String :=
  c.messages.keys.filter (memo.get? · = none)

/-- The message types that a flattening can still go through. -/
def pending (c : Catalog) (active : List String) (memo : NameMap FlagSchema) : List String :=
  (unremembered c memo).filter (· ∉ active)

theorem mem_unremembered {m : MessageType} (hnone : memo.get? name = none)
    (hm : c.message? name = some m) : name ∈ unremembered c memo :=
  List.mem_filter.2 ⟨NameMap.mem_keys_of_get? hm, by simpa using hnone⟩

theorem pending_nil (c : Catalog) (memo : NameMap FlagSchema) :
    pending c [] memo = unremembered c memo := by
  simp [pending]

/-- When a message type that is pending becomes active, fewer are pending. -/
theorem pending_lt {m : MessageType} (hsub : ∀ a ∈ active, a ∈ marked) (hactive : name ∉ active)
    (hmarked : name ∈ marked) (hnone : memo.get? name = none) (hm : c.message? name = some m) :
    (pending c marked memo).length < (pending c active memo).length := by
  have hmem : name ∈ pending c active memo :=
    List.mem_filter.2 ⟨mem_unremembered hnone hm, by simpa using hactive⟩
  have hfilter : pending c marked memo = (pending c active memo).filter (· ∉ marked) := by
    unfold pending
    rw [List.filter_filter]
    congr 1
    funext a
    by_cases ha : a ∈ marked
    · simp [ha]
    · have hnot : a ∉ active := fun h => ha (hsub a h)
      simp [ha, hnot]
  rw [hfilter]
  exact List.length_filter_lt_length_iff_exists.2 ⟨name, hmem, by simpa using hmarked⟩

/-- When more is remembered, no more are pending. -/
theorem pending_le (h : Grows memo more) (active : List String) :
    (pending c active more).length ≤ (pending c active memo).length := by
  apply List.Sublist.length_le
  apply List.Sublist.filter
  apply List.monotone_filter_right
  intro a ha
  rw [decide_eq_true_eq] at ha ⊢
  by_contra hsome
  obtain ⟨schema, hschema⟩ := Option.ne_none_iff_exists'.1 hsome
  rw [h a schema hschema] at ha
  cases ha

/-- Going through fields by `descend` gives what a flattening gives, unless the limit is no greater
than the number of the pending message types and `descend` gives up. -/
def Tracks (c : Catalog) (limit : Nat) (descend : Descent) : Prop :=
  ∀ active message fs p,
    descend active message fs p = some (flattenFields c active message fs .empty p) ∨
      descend active message fs p = none ∧ limit ≤ (pending c active p.compiled).length

theorem fieldFlagsBy_eq (h : Tracks c limit descend) (active : List String) (message : String)
    (f : Field) (p : Progress) :
    fieldFlagsBy descend c active message f p = some (fieldFlags c active message f p) ∨
      fieldFlagsBy descend c active message f p = none ∧
        limit < (pending c active p.compiled).length := by
  cases hf : f.contribution with
  | flag type => exact .inl (by simp only [fieldFlagsBy, fieldFlags, hf])
  | nothing => exact .inl (by simp only [fieldFlagsBy, fieldFlags, hf])
  | otherMap => exact .inl (by simp only [fieldFlagsBy, fieldFlags, hf])
  | unsupported kind => exact .inl (by simp only [fieldFlagsBy, fieldFlags, hf])
  | embedded name =>
    by_cases hactive : name ∈ active
    · left
      rw [fieldFlags_of_active hf hactive]
      simp only [fieldFlagsBy, hf, if_pos hactive]
    · cases hmemo : p.compiled.get? name with
      | some s =>
        left
        rw [fieldFlags_of_known hf hactive hmemo]
        simp only [fieldFlagsBy, hf, if_neg hactive, hmemo]
      | none =>
        cases hm : c.message? name with
        | none =>
          left
          rw [fieldFlags_of_unknown hf hactive hmemo hm]
          simp only [fieldFlagsBy, hf, if_neg hactive, hmemo, hm]
        | some m =>
          simp only [fieldFlagsBy, hf, if_neg hactive, hmemo, hm]
          obtain hdescend | ⟨hdescend, hlimit⟩ := h (name :: active) name m.fields (p.started name)
          · left
            rw [hdescend, fieldFlags_of_new hf hactive hmemo hm]
            rfl
          · right
            have hlt := pending_lt (fun a => List.mem_cons_of_mem name) hactive
              List.mem_cons_self hmemo hm
            exact ⟨by rw [hdescend]; rfl, lt_of_le_of_lt hlimit hlt⟩

theorem flattenFieldsBy_eq (h : Tracks c limit descend) (active : List String) (message : String)
    (fs : List Field) (flags : NameMap FlagType) (p : Progress) :
    flattenFieldsBy descend c active message fs flags p =
        some (flattenFields c active message fs flags p) ∨
      flattenFieldsBy descend c active message fs flags p = none ∧
        limit < (pending c active p.compiled).length := by
  induction fs generalizing flags p with
  | nil => exact .inl (by simp only [flattenFieldsBy, flattenFields])
  | cons f fs ih =>
    obtain hfield | ⟨hfield, hlimit⟩ := fieldFlagsBy_eq h active message f p
    · have hgrows := (extends_traversal (c := c).1 active message f p).grows
      rw [flattenFieldsBy, flattenFields, hfield]
      rcases hout : fieldFlags c active message f p with ⟨e | new, q⟩
      · exact .inl rfl
      · rw [hout] at hgrows
        dsimp only
        cases addFlags flags new with
        | error path => exact .inl rfl
        | ok flags =>
          obtain hrest | ⟨hrest, hlimit⟩ := ih flags q
          · exact .inl hrest
          · exact .inr ⟨hrest, lt_of_lt_of_le hlimit (pending_le hgrows active)⟩
    · refine .inr ⟨?_, hlimit⟩
      rw [flattenFieldsBy, hfield]

theorem tracks_descentWithin (c : Catalog) (limit : Nat) :
    Tracks c limit (descentWithin c limit) := by
  induction limit with
  | zero => exact fun _ _ _ _ => .inr ⟨rfl, Nat.zero_le _⟩
  | succ limit ih =>
    exact fun active message fs p => flattenFieldsBy_eq ih active message fs .empty p

theorem flattenWithin_of_new {s : Flattener} {m : MessageType} (hnone : s.compiled.get? name = none)
    (hm : c.message? name = some m) : s.flattenWithin limit c name = (descentWithin c limit
      (s.marks name) name m.fields (s.begun name)).map (conclude s name m) := by
  simp only [flattenWithin, hnone, hm, marks, begun]

/-- Under a limit a flattening gives the same answer, or the limit is lower than the number of the
message types that are not remembered. -/
theorem flattenWithin_eq (c : Catalog) (s : Flattener) (name : String) (limit : Nat) :
    s.flattenWithin limit c name = some (s.flatten c name) ∨
      s.flattenWithin limit c name = none ∧ limit < (unremembered c s.compiled).length := by
  cases hmemo : s.compiled.get? name with
  | some schema => exact .inl (by simp only [flattenWithin, flatten, hmemo])
  | none =>
    cases hm : c.message? name with
    | none => exact .inl (by simp only [flattenWithin, flatten, hmemo, hm])
    | some m =>
      rw [flattenWithin_of_new hmemo hm]
      obtain hdescend | ⟨hdescend, hlimit⟩ :=
        tracks_descentWithin c limit (s.marks name) name m.fields (s.begun name)
      · left
        rw [hdescend]
        obtain ⟨i, q, hrun, hflatten⟩ | ⟨flags, q, hrun, hflatten⟩ := flatten_of_new hmemo hm
        · rw [hrun, hflatten]
          rfl
        · rw [hrun, hflatten]
          rfl
      · right
        have hmarked : name ∈ s.marks name := mem_marks.2 (.inl rfl)
        have hlt : (pending c (s.marks name) s.compiled).length <
            (pending c [] s.compiled).length :=
          pending_lt (by simp) List.not_mem_nil hmarked hmemo hm
        rw [pending_nil] at hlt
        exact ⟨by rw [hdescend]; rfl, lt_of_le_of_lt hlimit hlt⟩

theorem walked_started (p : Progress) (name : String) :
    walked (p.started name).events = walked p.events ++ [name] := by
  simp [Progress.started, Progress.note]

/-- Only message types of the catalog are gone through. -/
theorem listed_traversal :
    (∀ active message f p, ∀ a ∈ walked (fieldFlags c active message f p).2.events,
      a ∈ walked p.events ∨ a ∈ c.messages.keys) ∧
    ∀ active message fs flags p, ∀ a ∈ walked (flattenFields c active message fs flags p).2.events,
      a ∈ walked p.events ∨ a ∈ c.messages.keys := by
  have hstarted {p : Progress} {name a : String} {m : MessageType} (hm : c.message? name = some m)
      (ha : a ∈ walked (p.started name).events ∨ a ∈ c.messages.keys) :
      a ∈ walked p.events ∨ a ∈ c.messages.keys := by
    rw [walked_started, List.mem_append, List.mem_singleton, or_assoc] at ha
    obtain ha | rfl | ha := ha
    · exact .inl ha
    · exact .inr (NameMap.mem_keys_of_get? hm)
    · exact .inr ha
  apply traversal
    (P := fun _ _ _ p out => ∀ a ∈ walked out.2.events, a ∈ walked p.events ∨ a ∈ c.messages.keys)
    (Q := fun _ _ _ _ p out => ∀ a ∈ walked out.2.events, a ∈ walked p.events ∨ a ∈ c.messages.keys)
  case flag | unsupported | known | unknown | nil =>
    intros
    exact .inl ‹_›
  case silent =>
    intro active message f p q _ _ _ hevents a ha
    left
    rcases hevents with hevents | hevents <;> simpa [hevents] using ha
  case cut =>
    intro active message f p q name _ _ _ _ hevents a ha
    left
    simpa [hevents] using ha
  case interrupted =>
    intro active message f p name m e q _ _ _ hm _ ih a ha
    exact hstarted hm (ih a ha)
  case walked =>
    intro active message f p name m flags q _ _ _ hm _ ih a ha
    exact hstarted hm (ih a ha)
  case failed =>
    intro active message f fs flags p e q ih
    exact ih
  case collision =>
    intro active message f fs flags p new q path ih _
    exact ih
  case cons =>
    intro active message f fs flags p new q more out _ ih _ _ ihs a ha
    obtain ha | ha := ihs a ha
    · exact ih a ha
    · exact .inr ha

theorem events_of_new {s : Flattener} {m : MessageType} (hnone : s.compiled.get? name = none)
    (hm : c.message? name = some m) : (s.flatten c name).events =
      (flattenFields c (s.marks name) name m.fields .empty (s.begun name)).2.events := by
  obtain ⟨i, q, hrun, hflatten⟩ | ⟨flags, q, hrun, hflatten⟩ := flatten_of_new hnone hm
  · rw [hrun, hflatten]
  · rw [hrun, hflatten]

theorem walked_flatten_subset (c : Catalog) (s : Flattener) (name : String) :
    walked (s.flatten c name).events ⊆ unremembered c s.compiled := by
  intro a ha
  refine List.mem_filter.2 ⟨?_, by simpa using (walks_flatten c s name).1.fresh a ha⟩
  cases hmemo : s.compiled.get? name with
  | some schema => simp [flatten_of_known hmemo, walked] at ha
  | none =>
    cases hm : c.message? name with
    | none => simp [flatten_of_unknown hmemo hm, walked] at ha
    | some m =>
      rw [events_of_new hmemo hm] at ha
      have hbegun : walked (s.begun name).events = [name] := rfl
      obtain hmem | hmem :=
        listed_traversal.2 (s.marks name) name m.fields .empty (s.begun name) a ha
      · rw [hbegun, List.mem_singleton] at hmem
        exact hmem ▸ NameMap.mem_keys_of_get? hm
      · exact hmem

/-- Whatever happened before, a flattening ends, and the number of the message types that are not
remembered is limit enough. Only these are gone through, none of them twice, and all are counted. -/
theorem flatten_bounded (c : Catalog) (s : Flattener) (name : String) :
    (∀ limit, s.flattenWithin limit c name = some (s.flatten c name) ∨
      s.flattenWithin limit c name = none ∧ limit < (unremembered c s.compiled).length) ∧
    (walked (s.flatten c name).events).Nodup ∧
    walked (s.flatten c name).events ⊆ unremembered c s.compiled ∧
    (s.flatten c name).flattener.walks = s.walks + (walked (s.flatten c name).events).length ∧
    (s.flatten c name).flattener.walks ≤ s.walks + (unremembered c s.compiled).length := by
  obtain ⟨hwalks, hcounted, -⟩ := walks_flatten c s name
  have hsub := walked_flatten_subset c s name
  refine ⟨flattenWithin_eq c s name, hwalks.distinct, hsub, hcounted, ?_⟩
  have hle := (hwalks.distinct.subperm hsub).length_le
  omega

/-- A person and the company that it embeds are gone through one inside the other. -/
example : (List.range 3).map (fun limit => (({} : Flattener).flattenWithin limit kinship
    "acme.Person").isSome) = [false, false, true] := by
  cbv

end ServiceCli.Flattener
