import Mathlib.Data.List.Forall2
import ServiceCli.Failure

/-!
Computations that are done one after the other and that the first error ends.
-/
namespace ServiceCli

theorem exists_of_forall₂ {α β : Type} {R : α → β → Prop} {as : List α} {bs : List β} {a : α}
    (h : List.Forall₂ R as bs) (ha : a ∈ as) : ∃ b ∈ bs, R a b := by
  induction h with
  | nil => cases ha
  | @cons _ b _ bs hab _ ih =>
    obtain rfl | ha := List.mem_cons.1 ha
    · exact ⟨b, List.mem_cons_self, hab⟩
    · obtain ⟨b', hb', hab'⟩ := ih ha
      exact ⟨b', List.mem_cons_of_mem b hb', hab'⟩

variable {ε α β : Type} {e : ε}

theorem map_eq_error {x : Except ε α} {f : α → β} : x.map f = .error e ↔ x = .error e := by
  cases x <;> simp [Except.map]

theorem orStop_eq_error {x : Except Failure α} {stop : Stop} :
    orStop x = .error stop ↔ ∃ e, x = .error e ∧ stop = .failure e := by
  cases x <;> simp [orStop, eq_comm]

section Fold

variable {f : β → α → Except ε β} {as : List α} {b b' : β}

/-- A fold stops at the first element that stops it. -/
theorem foldlM_eq_error :
    as.foldlM f b = .error e ↔ ∃ before a after b', as = before ++ a :: after ∧
      before.foldlM f b = .ok b' ∧ f b' a = .error e := by
  induction as generalizing b with
  | nil => simp [pure, Except.pure]
  | cons a as ih =>
    rw [List.foldlM_cons, bind_eq_error]
    simp only [ih]
    constructor
    · rintro (h | ⟨b₁, hfirst, before, x, after, b', rfl, hbefore, hx⟩)
      · exact ⟨[], a, as, b, rfl, rfl, h⟩
      · exact ⟨a :: before, x, after, b', rfl, bind_eq_ok.2 ⟨b₁, hfirst, hbefore⟩, hx⟩
    · rintro ⟨before, x, after, b', heq, hbefore, hx⟩
      rcases List.cons_eq_append_iff.1 heq with ⟨rfl, heq⟩ | ⟨rest, rfl, rfl⟩
      · obtain ⟨rfl, rfl⟩ := List.cons.inj heq
        cases hbefore
        exact .inl hx
      · obtain ⟨b₁, hfirst, hrest⟩ := bind_eq_ok.1 hbefore
        exact .inr ⟨b₁, hfirst, rest, x, after, b', rfl, hrest, hx⟩

theorem foldlM_eq_ok_at {a : α} (h : as.foldlM f b = .ok b') (ha : a ∈ as) :
    ∃ before after b₁ b₂, as = before ++ a :: after ∧ before.foldlM f b = .ok b₁ ∧
      f b₁ a = .ok b₂ := by
  obtain ⟨before, after, rfl⟩ := List.append_of_mem ha
  rw [List.foldlM_append, bind_eq_ok] at h
  obtain ⟨b₁, hbefore, h⟩ := h
  obtain ⟨b₂, hstep, -⟩ := bind_eq_ok.1 h
  exact ⟨before, after, b₁, b₂, rfl, hbefore, hstep⟩

/-- A fold keeps what each of its steps keeps. -/
theorem foldlM_keeps {I : β → Prop} (step : ∀ b, ∀ a ∈ as, ∀ b', I b → f b a = .ok b' → I b')
    (h : I b) (hfold : as.foldlM f b = .ok b') : I b' := by
  induction as generalizing b with
  | nil =>
    cases hfold
    exact h
  | cons a as ih =>
    rw [List.foldlM_cons, bind_eq_ok] at hfold
    obtain ⟨b₁, hfirst, hrest⟩ := hfold
    exact ih (fun b x hx => step b x (List.mem_cons_of_mem a hx))
      (step b a List.mem_cons_self b₁ h hfirst) hrest

end Fold

section Each

variable {f : α → Except ε β} {as : List α}

theorem mapM_eq_ok {bs : List β} :
    as.mapM f = .ok bs ↔ List.Forall₂ (fun a b => f a = .ok b) as bs := by
  induction as generalizing bs with
  | nil => simp [pure, Except.pure, eq_comm]
  | cons a as ih =>
    rw [List.mapM_cons, bind_eq_ok, List.forall₂_cons_left_iff]
    simp only [bind_eq_ok, ih]
    constructor
    · rintro ⟨b, hb, rest, hrest, h⟩
      exact ⟨b, rest, hb, hrest, (Except.ok.inj h).symm⟩
    · rintro ⟨b, rest, hb, hrest, rfl⟩
      exact ⟨b, hb, rest, hrest, rfl⟩

/-- The first computation that has an error decides the error. -/
theorem mapM_eq_error : as.mapM f = .error e ↔ ∃ before a after, as = before ++ a :: after ∧
    (∀ x ∈ before, ∃ b, f x = .ok b) ∧ f a = .error e := by
  induction as with
  | nil => simp [pure, Except.pure]
  | cons a as ih =>
    have hok : ∀ bs : List β, (pure bs : Except ε (List β)) ≠ .error e := nofun
    rw [List.mapM_cons, bind_eq_error]
    simp only [bind_eq_error, hok, and_false, exists_false, or_false, ih]
    constructor
    · rintro (h | ⟨b, hb, before, x, after, rfl, hbefore, hx⟩)
      · exact ⟨[], a, as, rfl, by simp, h⟩
      · exact ⟨a :: before, x, after, rfl, List.forall_mem_cons.2 ⟨⟨b, hb⟩, hbefore⟩, hx⟩
    · rintro ⟨before, x, after, heq, hbefore, hx⟩
      rcases List.cons_eq_append_iff.1 heq with ⟨rfl, heq⟩ | ⟨rest, rfl, rfl⟩
      · obtain ⟨rfl, rfl⟩ := List.cons.inj heq
        exact .inl hx
      · obtain ⟨⟨b, hb⟩, hrest⟩ := List.forall_mem_cons.1 hbefore
        exact .inr ⟨b, hb, rest, x, after, rfl, hrest, hx⟩

theorem exists_mapM_of_forall (h : ∀ a ∈ as, ∃ b, f a = .ok b) : ∃ bs, as.mapM f = .ok bs := by
  cases hmap : as.mapM f with
  | ok bs => exact ⟨bs, rfl⟩
  | error e =>
    obtain ⟨before, a, after, rfl, -, ha⟩ := mapM_eq_error.1 hmap
    obtain ⟨b, hb⟩ := h a (by simp)
    cases hb.symm.trans ha

theorem mapM_congr {g : α → Except ε β} (h : ∀ a ∈ as, f a = g a) : as.mapM f = as.mapM g := by
  induction as with
  | nil => rfl
  | cons a as ih =>
    obtain ⟨ha, has⟩ := List.forall_mem_cons.1 h
    rw [List.mapM_cons, List.mapM_cons, ha, ih has]

theorem mapM_map {γ : Type} (g : β → γ) :
    as.mapM (fun a => (f a).map g) = (as.mapM f).map (List.map g) := by
  induction as with
  | nil => rfl
  | cons a as ih =>
    rw [List.mapM_cons, List.mapM_cons, ih]
    cases f a with
    | error e => rfl
    | ok b => cases as.mapM f <;> rfl

/-- Values that do not depend on anything but the element. -/
theorem eq_map_of_mapM {g : α → β} {bs : List β} (hvalue : ∀ a b, f a = .ok b → b = g a)
    (h : as.mapM f = .ok bs) : bs = as.map g := by
  induction mapM_eq_ok.1 h with
  | nil => rfl
  | @cons a b as bs hab hrest ih => rw [List.map_cons, hvalue a b hab, ih (mapM_eq_ok.2 hrest)]

/-- Whether a computation succeeds, or the error that ends it. -/
def verdict (x : Except ε α) : Except ε Unit := x.map fun _ => ()

theorem verdict_eq_ok {x : Except ε α} : verdict x = .ok () ↔ ∃ a, x = .ok a := by
  cases x <;> simp [verdict, Except.map]

theorem verdict_eq_error {x : Except ε α} : verdict x = .error e ↔ x = .error e := map_eq_error

/-- A last step that succeeds changes nothing. -/
theorem verdict_bind_ok (x : Except ε α) (g : α → β) :
    verdict (x >>= fun a => .ok (g a)) = verdict x := by
  cases x <;> rfl

/-- Computations for each element that go through its parts end as one that goes through the parts
of all elements. -/
theorem verdict_mapM {γ δ : Type} {parts : α → List γ} {g : γ → Except ε δ}
    (h : ∀ a ∈ as, verdict (f a) = verdict ((parts a).mapM g)) :
    verdict (as.mapM f) = verdict ((as.flatMap parts).mapM g) := by
  induction as with
  | nil => rfl
  | cons a as ih =>
    obtain ⟨ha, has⟩ := List.forall_mem_cons.1 h
    specialize ih has
    rw [List.mapM_cons, List.flatMap_cons, List.mapM_append]
    cases hparts : (parts a).mapM g with
    | error e =>
      rw [verdict_eq_error.1 (ha.trans (verdict_eq_error.2 hparts))]
      rfl
    | ok ds =>
      obtain ⟨b, hb⟩ := verdict_eq_ok.1 (ha.trans (verdict_eq_ok.2 ⟨ds, hparts⟩))
      rw [hb]
      exact (verdict_bind_ok _ _).trans (ih.trans (verdict_bind_ok _ _).symm)

/-- A fold that reads each element and adds what it reads. -/
theorem foldlM_eq_mapM {σ : Type} {step : σ → α → Except ε σ} {g : σ → List β → σ}
    (hnil : ∀ s, g s [] = s) (hcons : ∀ s b bs, g (g s [b]) bs = g s (b :: bs))
    (hstep : ∀ s, ∀ a ∈ as, step s a = (f a).map fun b => g s [b]) (s : σ) :
    as.foldlM step s = (as.mapM f).map (g s) := by
  induction as generalizing s with
  | nil => exact congrArg Except.ok (hnil s).symm
  | cons a as ih =>
    rw [List.foldlM_cons, List.mapM_cons, hstep s a List.mem_cons_self]
    have hrest := ih fun s x hx => hstep s x (List.mem_cons_of_mem a hx)
    cases f a with
    | error e => rfl
    | ok b =>
      refine (hrest (g s [b])).trans ?_
      cases as.mapM f with
      | error e => rfl
      | ok bs => exact congrArg Except.ok (hcons s b bs)

/-- A fold that adds each element adds all of them. -/
theorem foldlM_eq_add {σ : Type} {step : σ → α → Except ε σ} {g : σ → List α → σ}
    (hnil : ∀ s, g s [] = s) (hcons : ∀ s a as, g (g s [a]) as = g s (a :: as))
    (hstep : ∀ s, ∀ a ∈ as, step s a = .ok (g s [a])) (s : σ) :
    as.foldlM step s = .ok (g s as) := by
  have hall : as.mapM Except.ok = (.ok as : Except ε (List α)) :=
    mapM_eq_ok.2 (List.forall₂_same.2 fun _ _ => rfl)
  rw [foldlM_eq_mapM (f := Except.ok) hnil hcons hstep, hall]
  rfl

end Each

end ServiceCli
