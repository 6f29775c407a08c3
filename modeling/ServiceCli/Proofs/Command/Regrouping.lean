import Mathlib.Data.List.Induction
import Mathlib.Data.List.Nodup

/-!
Lists of which only the first of equal elements count, and lists put in the order of their keys.
-/
namespace ServiceCli

variable {α κ : Type}

/-- Lists with the same elements are the same if they have the same image and nothing in it comes
twice. -/
theorem eq_of_map_eq {f : α → κ} {l l' : List α} (hn : (l.map f).Nodup) (h : l.map f = l'.map f)
    (hsub : ∀ a ∈ l', a ∈ l) : l = l' := by
  have hinj : ∀ a ∈ l, ∀ b ∈ l, f a = f b → a = b := fun a ha b hb =>
    List.inj_on_of_nodup_map hn ha hb
  refine List.ext_getElem (by simpa using congrArg List.length h) fun i hi hi' => ?_
  refine hinj _ (List.getElem_mem hi) _ (hsub _ (List.getElem_mem hi')) ?_
  have hget := List.getElem_of_eq h (by simpa using hi)
  simpa using hget

variable [DecidableEq κ]

section

variable [DecidableEq α]

theorem eraseDups_concat (l : List α) (a : α) :
    (l ++ [a]).eraseDups = if a ∈ l then l.eraseDups else l.eraseDups ++ [a] := by
  rw [List.eraseDups_append]
  by_cases h : a ∈ l
  · simp [List.removeAll, h]
  · simp [List.removeAll, h, List.eraseDups_cons]

theorem nodup_eraseDups (l : List α) : l.eraseDups.Nodup := by
  induction l using List.reverseRecOn with
  | nil => simp
  | append_singleton l a ih =>
    rw [eraseDups_concat]
    split
    · exact ih
    · rename_i h
      exact List.nodup_append.2 ⟨ih, List.nodup_singleton a, by
        rintro b hb c hc rfl
        exact h (List.mem_singleton.1 hc ▸ List.mem_eraseDups.1 hb)⟩

theorem eraseDups_of_nodup {l : List α} (h : l.Nodup) : l.eraseDups = l := by
  induction l using List.reverseRecOn with
  | nil => rfl
  | append_singleton l a ih =>
    have hparts := List.nodup_append.1 h
    have ha : a ∉ l := fun hmem => hparts.2.2 a hmem a (List.mem_singleton_self a) rfl
    rw [eraseDups_concat, if_neg ha, ih hparts.1]

theorem eraseDups_filter (p : α → Bool) (l : List α) :
    (l.filter p).eraseDups = l.eraseDups.filter p := by
  induction l using List.reverseRecOn with
  | nil => rfl
  | append_singleton l a ih =>
    rw [List.filter_append, eraseDups_concat]
    cases hp : p a with
    | false =>
      by_cases ha : a ∈ l <;> simp [ha, hp, ih]
    | true =>
      rw [List.filter_singleton, hp, cond_true, eraseDups_concat, ih]
      by_cases ha : a ∈ l <;> simp [ha, hp]

theorem find?_eraseDups (p : α → Bool) (l : List α) : l.eraseDups.find? p = l.find? p := by
  rw [← List.head?_filter, ← eraseDups_filter, ← List.head?_filter]
  cases l.filter p with
  | nil => rfl
  | cons a l => rw [List.eraseDups_cons, List.head?_cons, List.head?_cons]

theorem eraseDups_map_eraseDups (f : α → κ) (l : List α) :
    (l.eraseDups.map f).eraseDups = (l.map f).eraseDups := by
  induction l using List.reverseRecOn with
  | nil => rfl
  | append_singleton l a ih =>
    rw [List.map_append, List.map_singleton, eraseDups_concat, eraseDups_concat]
    by_cases ha : a ∈ l
    · rw [if_pos ha, if_pos (List.mem_map_of_mem ha), ih]
    · have hmem : f a ∈ l.eraseDups.map f ↔ f a ∈ l.map f := by simp [List.mem_eraseDups]
      rw [if_neg ha, List.map_append, List.map_singleton, eraseDups_concat, ih]
      simp only [hmem]

/-- The elements that come first among those with their key, by their keys. -/
theorem map_filter_first (key : α → κ) {l : List α} (h : l.Nodup) :
    (l.filter fun a => l.find? (key · = key a) = some a).map key = (l.map key).eraseDups := by
  induction l using List.reverseRecOn with
  | nil => rfl
  | append_singleton l a ih =>
    have hparts := List.nodup_append.1 h
    have ha : a ∉ l := fun hmem => hparts.2.2 a hmem a (List.mem_singleton_self a) rfl
    have hold : ∀ b ∈ l, (l ++ [a]).find? (key · = key b) = l.find? (key · = key b) := by
      intro b hb
      have hsome : (l.find? (key · = key b)).isSome := List.find?_isSome.2 ⟨b, hb, by simp⟩
      rw [List.find?_append, Option.or_of_isSome hsome]
    have hfilter : (l.filter fun b => (l ++ [a]).find? (key · = key b) = some b) =
        l.filter fun b => l.find? (key · = key b) = some b :=
      List.filter_congr fun b hb => by rw [hold b hb]
    rw [List.filter_append, hfilter, List.map_append, ih hparts.1, List.map_append,
      List.map_singleton, eraseDups_concat]
    by_cases hkey : key a ∈ l.map key
    · obtain ⟨b, hb, hkb⟩ := List.mem_map.1 hkey
      have hnot : (l ++ [a]).find? (key · = key a) ≠ some a := by
        rw [← hkb, hold b hb]
        exact fun hfind => ha (List.mem_of_find?_eq_some hfind)
      rw [if_pos hkey, List.filter_singleton]
      simp only [hnot, decide_false, cond_false, List.map_nil, List.append_nil]
    · have hnone : l.find? (key · = key a) = none := by
        rw [List.find?_eq_none]
        intro b hb
        simpa using fun heq => hkey (List.mem_map.2 ⟨b, hb, heq⟩)
      have hfirst : (l ++ [a]).find? (key · = key a) = some a := by
        rw [List.find?_append, hnone]
        simp
      rw [if_neg hkey, List.filter_singleton]
      simp only [hfirst, decide_true, cond_true, List.map_singleton]

end

/-- The elements with the first of `keys`, then those with the second one, and so on. -/
def regroup (keys : List κ) (key : α → κ) (l : List α) : List α :=
  keys.flatMap fun k => l.filter (key · = k)

variable {keys : List κ} {key : α → κ}

theorem mem_regroup {l : List α} {a : α} : a ∈ regroup keys key l ↔ a ∈ l ∧ key a ∈ keys := by
  simp [regroup, and_comm]

theorem nodup_regroup (hkeys : keys.Nodup) {l : List α} (h : l.Nodup) :
    (regroup keys key l).Nodup := by
  refine List.nodup_flatMap.2 ⟨fun k _ => h.filter _, hkeys.imp fun {k k'} hne a ha ha' => ?_⟩
  simp only [List.mem_filter, decide_eq_true_eq] at ha ha'
  exact hne (ha.2.symm.trans ha'.2)

theorem filter_regroup (p : α → Bool) (l : List α) :
    (regroup keys key l).filter p = regroup keys key (l.filter p) := by
  simp only [regroup, List.filter_flatMap, List.filter_filter, Bool.and_comm]

theorem regroup_cons {k : κ} (hk : k ∉ keys) (l : List α) :
    regroup (k :: keys) key l =
      l.filter (key · = k) ++ regroup keys key (l.filter fun a => ¬key a = k) := by
  have hrest : regroup keys key l = regroup keys key (l.filter fun a => ¬key a = k) := by
    refine List.flatMap_congr fun k' hk' => ?_
    rw [List.filter_filter]
    refine List.filter_congr fun a _ => ?_
    have hne : k' ≠ k := fun heq => hk (heq ▸ hk')
    by_cases h : key a = k' <;> simp [h, hne]
  rw [← hrest]
  rfl

theorem filter_append_filter_not {p : α → Prop} [DecidablePred p] {l : List α}
    (h : l.Pairwise fun a b => p b → p a) : l.filter (p ·) ++ l.filter (¬p ·) = l := by
  induction l with
  | nil => rfl
  | cons a l ih =>
    obtain ⟨ha, hl⟩ := List.pairwise_cons.1 h
    by_cases hp : p a
    · simpa [hp] using ih hl
    · have hnone : ∀ b ∈ l, ¬p b := fun b hb hpb => hp (ha b hb hpb)
      have hempty : l.filter (p ·) = [] := by simpa using hnone
      simpa [hp, hempty] using hnone

/-- In the order of its keys, a list stays as it is exactly when its keys are already in order. -/
theorem regroup_eq_iff (hkeys : keys.Nodup) {l : List α} (hl : ∀ a ∈ l, key a ∈ keys) :
    regroup keys key l = l ↔ l.Pairwise fun a b => keys.idxOf (key a) ≤ keys.idxOf (key b) := by
  induction keys generalizing l with
  | nil =>
    have hempty : l = [] := List.eq_nil_iff_forall_not_mem.2 fun a ha => by simpa using hl a ha
    simp [hempty, regroup]
  | cons k keys ih =>
    obtain ⟨hk, hkeys⟩ := List.nodup_cons.1 hkeys
    have hrank : ∀ a b, (k :: keys).idxOf (key a) ≤ (k :: keys).idxOf (key b) ↔
        key a = k ∨ key b ≠ k ∧ keys.idxOf (key a) ≤ keys.idxOf (key b) := by
      intro a b
      by_cases ha : key a = k
      · simp [ha]
      · rw [List.idxOf_cons_ne _ (Ne.symm ha)]
        by_cases hb : key b = k
        · simp [ha, hb]
        · rw [List.idxOf_cons_ne _ (Ne.symm hb)]
          simp [ha, hb]
    have hl' : ∀ a ∈ l.filter fun a => ¬key a = k, key a ∈ keys := by
      intro a ha
      simp only [List.mem_filter, decide_eq_true_eq] at ha
      exact (List.mem_cons.1 (hl a ha.1)).resolve_left ha.2
    specialize ih hkeys hl'
    rw [regroup_cons hk]
    simp only [hrank]
    constructor
    · intro h
      have hrest : regroup keys key (l.filter (¬key · = k)) = l.filter (¬key · = k) := by
        conv_rhs => rw [← h]
        rw [List.filter_append, filter_regroup]
        simp [List.filter_filter]
      have hpairs := ih.1 hrest
      rw [← h, hrest, List.pairwise_append]
      refine ⟨?_, ?_, ?_⟩
      · exact List.pairwise_of_forall_mem_list fun a ha _ _ =>
          .inl (by simpa using (List.mem_filter.1 ha).2)
      · exact hpairs.imp_of_mem fun _ hb hle =>
          .inr ⟨by simpa using (List.mem_filter.1 hb).2, hle⟩
      · exact fun a ha _ _ => .inl (by simpa using (List.mem_filter.1 ha).2)
    · intro h
      have hrest := ih.2 ((h.filter _).imp_of_mem fun ha _ hab =>
        (hab.resolve_left (by simpa using (List.mem_filter.1 ha).2)).2)
      rw [hrest]
      exact filter_append_filter_not (h.imp fun hab hb => hab.resolve_right fun hne => hne.1 hb)

theorem filter_regroup_key {k : κ} (hkeys : keys.Nodup) (hk : k ∈ keys) (l : List α) :
    (regroup keys key l).filter (key · = k) = l.filter (key · = k) := by
  have hkey : ∀ a ∈ l.filter (key · = k), key a = k := fun a ha => by
    simpa using (List.mem_filter.1 ha).2
  rw [filter_regroup, regroup_eq_iff hkeys fun a ha => (hkey a ha).symm ▸ hk]
  exact List.pairwise_of_forall_mem_list fun a ha b hb =>
    Nat.le_of_eq (congrArg keys.idxOf ((hkey a ha).trans (hkey b hb).symm))

theorem eraseDups_of_forall_eq {k : κ} {ks : List κ} (hall : ∀ k' ∈ ks, k' = k) (hk : k ∈ ks) :
    ks.eraseDups = [k] := by
  cases ks with
  | nil => simp at hk
  | cons k' ks =>
    obtain ⟨rfl, hall⟩ := List.forall_mem_cons.1 hall
    have hnone : (ks.filter fun k => !k == k') = [] := by simpa using hall
    rw [List.eraseDups_cons, hnone, List.eraseDups_nil]

/-- The keys of a list in the order of its keys come in that order. -/
theorem eraseDups_map_regroup (hkeys : keys.Nodup) {l : List α}
    (hl : ∀ k ∈ keys, ∃ a ∈ l, key a = k) : ((regroup keys key l).map key).eraseDups = keys := by
  induction keys with
  | nil => rfl
  | cons k keys ih =>
    obtain ⟨hk, hnodup⟩ := List.nodup_cons.1 hkeys
    obtain ⟨⟨a, ha, hak⟩, hl⟩ := List.forall_mem_cons.1 hl
    have hmap : (regroup (k :: keys) key l).map key =
        (l.filter (key · = k)).map key ++ (regroup keys key l).map key := List.map_append
    have hall : ∀ k' ∈ (l.filter (key · = k)).map key, k' = k := by
      intro k' hk'
      obtain ⟨b, hb, rfl⟩ := List.mem_map.1 hk'
      simpa using (List.mem_filter.1 hb).2
    have hmem : k ∈ (l.filter (key · = k)).map key :=
      List.mem_map.2 ⟨a, List.mem_filter.2 ⟨ha, by simpa using hak⟩, hak⟩
    have hnew : ((regroup keys key l).map key).removeAll ((l.filter (key · = k)).map key) =
        (regroup keys key l).map key := by
      refine List.filter_eq_self.2 fun k' hk' => ?_
      obtain ⟨b, hb, rfl⟩ := List.mem_map.1 hk'
      have hne : key b ∉ (l.filter (key · = k)).map key := fun hin =>
        hk (hall _ hin ▸ (mem_regroup.1 hb).2)
      simpa using hne
    rw [hmap, List.eraseDups_append, eraseDups_of_forall_eq hall hmem, hnew, ih hnodup hl]
    rfl

end ServiceCli
