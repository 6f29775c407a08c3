import ServiceCli.Proofs.Flag.Agreement
import ServiceCli.Proofs.Generation.Crash
import ServiceCli.Proofs.Generation.Relevance

/-!
One run over many files and one run for each of them. The files of a run share what was flattened,
which makes no difference where no message type reaches itself: flattening then answers the same
whatever was flattened before. So a run is the runs over its files, one after the other, and it
stops where the first of these does.
-/
namespace ServiceCli

/-- The catalog with one file to make commands for, and with all its message types. -/
def Catalog.only (c : Catalog) (f : ServiceFile) : Catalog := { c with files := [f] }

theorem Catalog.agreeFrom_only (c : Catalog) (f : ServiceFile) (name : String) :
    c.AgreeFrom (c.only f) name :=
  fun _ _ => rfl

namespace Generation

open Flattener (Served)

/-- Two computations stop in the same way, or both succeed with related results. -/
inductive Alike {α : Type} (R : α → α → Prop) : Except Stop α → Except Stop α → Prop where
  | stopped (stop : Stop) : Alike R (.error stop) (.error stop)
  | done {a b : α} : R a b → Alike R (.ok a) (.ok b)

section Alike

variable {α β : Type} {R : α → α → Prop} {S : β → β → Prop} {x y : Except Stop α}

theorem Alike.refl (x : Except Stop α) (h : ∀ a, x = .ok a → R a a) : Alike R x x := by
  cases x with
  | error stop => exact .stopped stop
  | ok a => exact .done (h a rfl)

theorem Alike.bind (h : Alike R x y) {f g : α → Except Stop β}
    (hf : ∀ a b, R a b → Alike S (f a) (g b)) : Alike S (x >>= f) (y >>= g) := by
  cases h with
  | stopped stop => exact .stopped stop
  | done hab => exact hf _ _ hab

/-- The same result beside states that are related. -/
def Beside {σ : Type} (S : σ → σ → Prop) (a b : α × σ) : Prop := a.1 = b.1 ∧ S a.2 b.2

end Alike

variable {c : Catalog} {settings : Settings} {layout : Layout}

/-- The same sets of flags so far, after whatever successful flattenings. -/
structure Flags.Peers (c : Catalog) (a b : Flags) : Prop where
  served_left : Served c a.flattener
  served_right : Served c b.flattener
  sets : a.sets = b.sets

theorem flatten_result_eq {s t : Flattener} {name : String} (hs : Served c s) (ht : Served c t)
    (hn : c.Nonrecursive name) : (s.flatten c name).result = (t.flatten c name).result :=
  Option.some.inj
    ((Flattener.flatten_eq_expansion hs hn).symm.trans (Flattener.flatten_eq_expansion ht hn))

variable {a b : Flags}

theorem Flags.Peers.gather {m : Method} (h : a.Peers c b) (hn : c.Nonrecursive m.inputType) :
    Alike (Flags.Peers c) (gather c a m).outcome (gather c b m).outcome := by
  have heq := flatten_result_eq h.served_left h.served_right hn
  rw [Generation.gather, Generation.gather, ← h.sets]
  split
  · exact .done h
  · simp only [Logged.outcome_bind, Logged.outcome_ofFailing, ← heq]
    refine Alike.bind (R := Eq) (.done rfl) fun _ _ _ => ?_
    refine Alike.bind (R := fun x y => x = y ∧ (a.flattener.flatten c m.inputType).result = .ok x)
      (.refl _ fun x hx => ⟨rfl, orStop_eq_ok.1 hx⟩) ?_
    rintro x _ ⟨rfl, hx⟩
    refine Alike.bind (R := Eq) (.done rfl) fun _ _ _ => ?_
    split
    · exact .stopped _
    · exact .done ⟨h.served_left.call hx, h.served_right.call (heq ▸ hx), rfl⟩

theorem Flags.Peers.methods {ms : List Method} (h : a.Peers c b)
    (hn : ∀ m ∈ ms, c.Nonrecursive m.inputType) (t : VerbTable) :
    Alike (Beside (Flags.Peers c)) (methods c ms (t, a)).outcome
      (methods c ms (t, b)).outcome := by
  induction ms generalizing t a b with
  | nil => exact .done ⟨rfl, h⟩
  | cons m ms ih =>
    obtain ⟨hm, hms⟩ := List.forall_mem_cons.1 hn
    simp only [Generation.methods, Logged.outcome_bind]
    refine Alike.bind (R := Eq) (.refl _ fun _ _ => rfl) ?_
    rintro t _ rfl
    exact (h.gather hm).bind fun _ _ h => ih h hms t

theorem Flags.Peers.service {s : Service} (h : a.Peers c b)
    (hn : ∀ m ∈ s.methods, c.Nonrecursive m.inputType) :
    Alike (Beside (Flags.Peers c)) (service c layout s a).outcome
      (service c layout s b).outcome := by
  rw [service_outcome, service_outcome]
  refine (h.methods hn .empty).bind ?_
  rintro ⟨t, a⟩ ⟨_, b⟩ ⟨rfl, h⟩
  refine Alike.bind (R := Eq) (.refl _ fun _ _ => rfl) ?_
  rintro cs _ rfl
  exact .done ⟨rfl, h⟩

theorem Flags.Peers.services {ss : List Service} (h : a.Peers c b)
    (hn : ∀ s ∈ ss, ∀ m ∈ s.methods, c.Nonrecursive m.inputType) :
    Alike (Beside (Flags.Peers c)) (services c layout ss a).outcome
      (services c layout ss b).outcome := by
  induction ss generalizing a b with
  | nil => exact .done ⟨rfl, h⟩
  | cons s ss ih =>
    obtain ⟨hs, hss⟩ := List.forall_mem_cons.1 hn
    simp only [Generation.services, Logged.outcome_bind]
    refine (h.service hs).bind ?_
    rintro ⟨cs, a⟩ ⟨_, b⟩ ⟨rfl, h⟩
    refine (ih h hss).bind ?_
    rintro ⟨others, a⟩ ⟨_, b⟩ ⟨rfl, h⟩
    exact .done ⟨rfl, h⟩

/-- Planning a file ends alike whatever was flattened before. -/
theorem plan_alike {f : ServiceFile} {s t : Flattener} (hs : Served c s) (ht : Served c t)
    (hn : ∀ s ∈ f.services, ∀ m ∈ s.methods, c.Nonrecursive m.inputType) :
    Alike (Beside fun s t => Served c s ∧ Served c t) (plan c settings f s).outcome
      (plan c settings f t).outcome := by
  have hempty : Flags.Peers c ⟨s, .empty⟩ ⟨t, .empty⟩ := ⟨hs, ht, rfl⟩
  simp only [plan, Logged.outcome_bind]
  refine (hempty.services hn).bind ?_
  rintro ⟨cs, a⟩ ⟨_, b⟩ ⟨rfl, h⟩
  exact .done ⟨by rw [h.sets], h.served_left, h.served_right⟩

section Files

variable {α : Type} {nameOf : String → String} {write : FilePlan → Except Stop α}

/-- What is written of one file, with nothing flattened before. -/
def fileAlone (c : Catalog) (settings : Settings) (write : FilePlan → Except Stop α)
    (f : ServiceFile) : Except Stop (List α) :=
  if f.services.isEmpty then .ok []
  else do return [← write (← (plan c settings f {}).outcome).1]

/-- After whatever was flattened, going through files writes them as if each came alone. -/
theorem files_eq_alone {fs : List ServiceFile} {flattener : Flattener} (hs : Served c flattener)
    (hn : ∀ f ∈ fs, ∀ s ∈ f.services, ∀ m ∈ s.methods, c.Nonrecursive m.inputType) :
    (files c settings nameOf write fs flattener).outcome.map (·.1) =
      (fs.mapM (fileAlone c settings write)).map List.flatten := by
  induction fs generalizing flattener with
  | nil => rfl
  | cons f fs ih =>
    obtain ⟨hf, hfs⟩ := List.forall_mem_cons.1 hn
    rw [List.mapM_cons, fileAlone]
    by_cases hempty : f.services.isEmpty
    · rw [files, if_pos hempty, if_pos hempty, ih hs hfs]
      show _ = Except.map _ ((fs.mapM (fileAlone c settings write)) >>= fun rest =>
        pure ([] :: rest))
      cases fs.mapM (fileAlone c settings write) <;> rfl
    · rw [files, if_neg hempty, if_neg hempty]
      simp only [Logged.outcome_bind, Logged.outcome_ofExcept, Logged.outcome_log]
      have hplan : Alike (Beside fun s t => Served c s ∧ Served c t)
          (plan c settings f flattener).outcome (plan c settings f {}).outcome :=
        plan_alike hs .fresh hf
      generalize (plan c settings f flattener).outcome = x at hplan ⊢
      generalize (plan c settings f {}).outcome = y at hplan ⊢
      cases hplan with
      | stopped stop => rfl
      | @done r r' hr =>
        obtain ⟨p, s⟩ := r
        obtain ⟨_, t⟩ := r'
        obtain ⟨rfl, hserved, -⟩ := hr
        have ih := ih hserved hfs
        simp only [bind, Except.bind]
        cases write p with
        | error stop => rfl
        | ok a =>
          simp only [pure, Except.pure]
          cases hrest : fs.mapM (fileAlone c settings write) <;>
            cases hfiles : (files c settings nameOf write fs s).outcome <;>
            simp_all [Except.map]

theorem run_eq_alone (hn : ∀ f ∈ c.files, ∀ s ∈ f.services, ∀ m ∈ s.methods,
    c.Nonrecursive m.inputType) : (run nameOf write c settings).outcome =
      (c.files.mapM (fileAlone c settings write)).map List.flatten := by
  rw [← files_eq_alone .fresh hn, run, Logged.outcome_bind]
  cases (files c settings nameOf write c.files {}).outcome <;> rfl

/-- A run over one file looks at no other file of the catalog. -/
theorem run_only {f : ServiceFile}
    (hn : ∀ s ∈ f.services, ∀ m ∈ s.methods, c.Nonrecursive m.inputType) :
    (run nameOf write (c.only f) settings).outcome = fileAlone c settings write f := by
  have honly : ∀ g ∈ (c.only f).files, ∀ s ∈ g.services, ∀ m ∈ s.methods,
      (c.only f).Nonrecursive m.inputType := by
    intro g hg
    obtain rfl := List.mem_singleton.1 hg
    exact hn
  have halone : fileAlone (c.only f) settings write f = fileAlone c settings write f := by
    rw [fileAlone, fileAlone, plan_eq_of_agree fun _ _ _ _ => c.agreeFrom_only f _]
  rw [run_eq_alone honly]
  show Except.map _ ([f].mapM _) = _
  rw [List.mapM_cons, halone]
  cases fileAlone c settings write f <;>
    simp [bind, Except.bind, pure, Except.pure, Except.map]

/-- A run over files is the runs over each, one after the other. -/
theorem run_eq_mapM (hn : ∀ f ∈ c.files, ∀ s ∈ f.services, ∀ m ∈ s.methods,
    c.Nonrecursive m.inputType) : (run nameOf write c settings).outcome =
      (c.files.mapM fun f => (run nameOf write (c.only f) settings).outcome).map List.flatten := by
  rw [run_eq_alone hn, mapM_congr fun f hf => run_only (hn f hf)]

end Files

theorem fileAlone_names {f : ServiceFile} {gs : List GeneratedFile}
    (h : fileAlone c settings generatedFile f = .ok gs) :
    gs.map (·.name) = if f.services.isEmpty then [] else [Source.fileName f.name] := by
  rw [fileAlone] at h
  split at h
  · rename_i hempty
    obtain rfl := Except.ok.inj h
    rw [if_pos hempty]
    rfl
  · rename_i hservices
    obtain ⟨⟨p, flattener⟩, hp, h⟩ := bind_eq_ok.1 h
    obtain ⟨g, hg, h⟩ := bind_eq_ok.1 h
    obtain ⟨trees, sets, -, -, rfl⟩ := plan_eq_ok.1 hp
    obtain ⟨is, -, rfl⟩ := generatedFile_eq_ok.1 hg
    obtain rfl := Except.ok.inj h
    rw [if_neg hservices]
    rfl

theorem generate_outcome : (generate c settings).outcome =
    (run Source.fileName generatedFile c settings).outcome.map fun gs => ⟨none, gs⟩ := by
  rw [generate, Logged.outcome_bind]
  cases (run Source.fileName generatedFile c settings).outcome <;> rfl

theorem generate_eq_mapM (hn : ∀ f ∈ c.files, ∀ s ∈ f.services, ∀ m ∈ s.methods,
    c.Nonrecursive m.inputType) : (generate c settings).outcome =
      (c.files.mapM fun f => (generate (c.only f) settings).outcome).map fun rs =>
        ⟨none, rs.flatMap (·.files)⟩ := by
  simp only [generate_outcome, run_eq_mapM hn, mapM_map]
  cases c.files.mapM fun f => (run Source.fileName generatedFile (c.only f) settings).outcome with
  | error stop => rfl
  | ok gs => simp [Except.map, List.flatMap_map]

/-- Where no message type that a request type leads to reaches itself, a run over files is one run
for each file, with the same message types, whatever writes the files. It succeeds if all of these
do, and then it answers their files in order, one of each file that has services. Otherwise it stops
as the first of them does that stops. -/
theorem generate_filewise (c : Catalog) (settings : Settings)
    (hn : ∀ f ∈ c.files, ∀ s ∈ f.services, ∀ m ∈ s.methods, c.Nonrecursive m.inputType) :
    (∀ {α : Type} (nameOf : String → String) (write : FilePlan → Except Stop α),
      (run nameOf write c settings).outcome =
        (c.files.mapM fun f => (run nameOf write (c.only f) settings).outcome).map List.flatten) ∧
    ((∃ r, (generate c settings).outcome = .ok r) ↔
      ∀ f ∈ c.files, ∃ r, (generate (c.only f) settings).outcome = .ok r) ∧
    (∀ r, (generate c settings).outcome = .ok r ↔
      ∃ rs, List.Forall₂ (fun f r => (generate (c.only f) settings).outcome = .ok r) c.files rs ∧
        r = ⟨none, rs.flatMap (·.files)⟩) ∧
    (∀ f ∈ c.files, ∀ r, (generate (c.only f) settings).outcome = .ok r → r.files.map (·.name) =
      if f.services.isEmpty then [] else [Source.fileName f.name]) ∧
    ∀ stop, (generate c settings).outcome = .error stop ↔
      ∃ before f after, c.files = before ++ f :: after ∧
        (∀ g ∈ before, ∃ r, (generate (c.only g) settings).outcome = .ok r) ∧
        (generate (c.only f) settings).outcome = .error stop := by
  have hok : ∀ r, (generate c settings).outcome = .ok r ↔ ∃ rs,
      List.Forall₂ (fun f r => (generate (c.only f) settings).outcome = .ok r) c.files rs ∧
        r = ⟨none, rs.flatMap (·.files)⟩ := by
    intro r
    rw [generate_eq_mapM hn, map_eq_ok]
    simp only [mapM_eq_ok, @eq_comm _ r]
  have herror : ∀ stop, (generate c settings).outcome = .error stop ↔
      ∃ before f after, c.files = before ++ f :: after ∧
        (∀ g ∈ before, ∃ r, (generate (c.only g) settings).outcome = .ok r) ∧
        (generate (c.only f) settings).outcome = .error stop := by
    intro stop
    rw [generate_eq_mapM hn, map_eq_error, mapM_eq_error]
  refine ⟨fun _ _ => run_eq_mapM hn, ⟨?_, fun hall => ?_⟩, hok, fun f hf r hr => ?_, herror⟩
  · rintro ⟨r, hr⟩ f hf
    obtain ⟨rs, hrs, -⟩ := (hok r).1 hr
    obtain ⟨r', -, hr'⟩ := exists_of_forall₂ hrs hf
    exact ⟨r', hr'⟩
  · cases hrun : (generate c settings).outcome with
    | ok r => exact ⟨r, rfl⟩
    | error stop =>
      obtain ⟨before, f, after, hfiles, -, hf⟩ := (herror stop).1 hrun
      obtain ⟨r, hr⟩ := hall f (by simp [hfiles])
      rw [hr] at hf
      cases hf
  · rw [generate_outcome, run_only (hn f hf), map_eq_ok] at hr
    obtain ⟨gs, hgs, rfl⟩ := hr
    exact fileAlone_names hgs

def bareFile : ServiceFile := ⟨"bare.proto", []⟩

/-- A file whose request type is unknown. -/
def lostFile : ServiceFile :=
  ⟨"lost.proto", [⟨"L", "acme.L", [⟨"GetB", "acme.L.GetB", "acme.Lost", {}⟩]⟩]⟩

/-- Two files with one request type, which is flattened for the first of them. -/
def shared : Catalog := { twins with files := [twinFile, bareFile, twinFile] }

def mixed : Catalog := { twins with files := [bareFile, twinFile, lostFile, twinFile] }

theorem not_embeds_twins {a b : String} : ¬twins.Embeds a b := by
  rintro ⟨m, hm, f, hf, -⟩
  have hentry := NameMap.get?_eq_some_iff.1 hm
  simp only [twins, List.mem_singleton, Prod.mk.injEq] at hentry
  rw [hentry.2] at hf
  cases hf

theorem nonrecursive_twins (name : String) : twins.Nonrecursive name := by
  intro a _ hcycle
  obtain ⟨b, hab, -⟩ := Relation.TransGen.head'_iff.1 hcycle
  exact not_embeds_twins hab

theorem generate_bare : (generate (twins.only bareFile) {}).outcome = .ok {} := rfl

theorem generate_lost : (generate (twins.only lostFile) {}).outcome =
    .error (.failure (.unknownMessage "acme.Lost")) := by
  decide +kernel

theorem generate_filewise_mixed :
    (∃ r, (generate shared {}).outcome = .ok r ∧
      r.files.map (·.name) = ["acme.cli.rs", "acme.cli.rs"]) ∧
    (generate mixed {}).outcome = .error (.failure (.unknownMessage "acme.Lost")) := by
  obtain ⟨r, is, hr, hfiles, -⟩ := generate_twins
  constructor
  · have hshared := (generate_filewise shared {} fun _ _ _ _ m _ => nonrecursive_twins _).2.2.1
    refine ⟨_, (hshared _).2 ⟨[r, {}, r], .cons hr (.cons generate_bare (.cons hr .nil)), rfl⟩, ?_⟩
    have hname : Source.fileName "acme.proto" = "acme.cli.rs" := by decide +kernel
    simp [hfiles, hname]
  · have hmixed := (generate_filewise mixed {} fun _ _ _ _ m _ => nonrecursive_twins _).2.2.2.2
    refine (hmixed _).2 ⟨[bareFile, twinFile], lostFile, [twinFile], rfl, ?_, generate_lost⟩
    exact List.forall_mem_cons.2 ⟨⟨_, generate_bare⟩, List.forall_mem_singleton.2 ⟨r, hr⟩⟩

end Generation

end ServiceCli
