import ServiceCli.Proofs.Decoding
import ServiceCli.Proofs.Flag.Cause
import ServiceCli.Proofs.Generation.Reserved
import ServiceCli.Sample

/-!
Catalogs without loose ends. In the catalog of a pool every message type that is named is there,
although the entries of maps are not: compilers name these only where maps take their place. So a
run over it does not miss a message type, and only groups are beyond it.
-/
namespace ServiceCli

namespace FieldKind

def isMap : FieldKind → Bool
  | map .. => true
  | scalar _ | enumeration _ | message _ | group _ => false

/-- The message types that the kind of a field names. -/
def messageNames : FieldKind → List String
  | message name | group name => [name]
  | map key value => key.messageNames ++ value.messageNames
  | scalar _ | enumeration _ => []

end FieldKind

/-- Every message type that is named is there, and maps are neither repeated nor inside of maps. -/
structure Catalog.Closed (c : Catalog) : Prop where
  inputs : ∀ f ∈ c.files, ∀ s ∈ f.services, ∀ m ∈ s.methods, c.messages.contains m.inputType
  kinds : ∀ name m, c.message? name = some m → ∀ f ∈ m.fields, ∀ n ∈ f.kind.messageNames,
    c.messages.contains n
  single : ∀ name m, c.message? name = some m → ∀ f ∈ m.fields, f.kind.isMap →
    f.repeated = false
  flat : ∀ name m, c.message? name = some m → ∀ f ∈ m.fields, ∀ key value,
    f.kind = .map key value → ¬key.isMap ∧ ¬value.isMap

namespace Descriptor

theorem TypeTable.mapEntry?_eq_some {t : TypeTable} {f : FieldEntry} {entry : MessageEntry} :
    t.mapEntry? f = some entry ↔ f.label = .repeated ∧
      (∃ name, f.type.message? = some name ∧ t.message? name = some entry) ∧
      entry.isMapEntry := by
  rw [TypeTable.mapEntry?]
  split
  · rename_i hlabel
    simp [Option.filter_eq_some_iff, Option.bind_eq_some_iff, hlabel]
  · rename_i hlabel
    simp [hlabel]

/-- The name is that of the entry of a map. -/
def TypeTable.isEntry (t : TypeTable) (name : String) : Bool :=
  (t.message? name).any (·.isMapEntry)

/-- Entries of maps are the types of repeated fields of other messages, and of nothing else. -/
structure Pool.EntriesInPlace (p : Pool) : Prop where
  fields : ∀ m ∈ p.types.messages, ∀ f ∈ m.fields, f.type.message?.any p.types.isEntry →
    f.label = .repeated ∧ m.isMapEntry = false
  inputs : ∀ f ∈ p.files, ∀ s ∈ f.services, ∀ m ∈ s.methods, p.types.isEntry m.input = false

instance (p : Pool) : Decidable p.EntriesInPlace :=
  decidable_of_iff (_ ∧ _) ⟨fun h => ⟨h.1, h.2⟩, fun h => ⟨h.1, h.2⟩⟩

/-- Entries of maps have a key and a value. -/
def Pool.EntriesComplete (p : Pool) : Prop :=
  ∀ m ∈ p.types.messages, m.isMapEntry →
    (m.fields.any (·.number == 1)) ∧ m.fields.any (·.number == 2)

instance (p : Pool) : Decidable p.EntriesComplete :=
  inferInstanceAs (Decidable (∀ m ∈ p.types.messages, _))

end Descriptor

open Descriptor (Pool TypeTable ValueType FieldEntry MessageEntry FileRecord)

namespace Catalog

@[simp] theorem isMap_kindOf (type : ValueType) : (kindOf type).isMap = false := by
  cases type <;> rfl

@[simp] theorem messageNames_kindOf (type : ValueType) :
    (kindOf type).messageNames = type.message?.toList := by
  cases type <;> rfl

variable {types : TypeTable} {pool : Pool} {c : Catalog}

/-- A field of maps becomes a map of what the entry has as key and value, any other keeps its type.
-/
theorem fieldOf_eq_ok {g : FieldEntry} {f : Field} (h : fieldOf types g = .ok f) :
    (∃ entry, types.mapEntry? g = some entry ∧ f.repeated = false ∧
      ∃ key ∈ entry.fields, ∃ value ∈ entry.fields,
        f.kind = .map (kindOf key.type) (kindOf value.type)) ∨
    (types.mapEntry? g = none ∧ f.kind = kindOf g.type) := by
  rw [fieldOf, TypeTable.isMap] at h
  cases hentry : types.mapEntry? g with
  | none =>
    rw [hentry] at h
    cases h
    exact .inr ⟨rfl, rfl⟩
  | some entry =>
    obtain ⟨-, ⟨name, hname, hmessage⟩, -⟩ := TypeTable.mapEntry?_eq_some.1 hentry
    simp only [hentry, hname, Option.isSome_some, if_true, Option.getD_some] at h
    obtain ⟨kind, hkind, h⟩ := bind_eq_ok.1 h
    cases h
    simp only [mapKind, hmessage] at hkind
    split at hkind
    · rename_i key value hkey hvalue
      refine .inl ⟨entry, rfl, rfl, key, List.mem_of_find?_eq_some hkey, value,
        List.mem_of_find?_eq_some hvalue, ?_⟩
      exact (Except.ok.inj hkind).symm
    · cases hkind

/-- Every field can be had where entries of maps have a key and a value. -/
theorem exists_fieldOf (h : pool.EntriesComplete) (g : FieldEntry) :
    ∃ f, fieldOf pool.types g = .ok f := by
  rw [fieldOf, TypeTable.isMap]
  cases hentry : pool.types.mapEntry? g with
  | none => exact ⟨_, rfl⟩
  | some entry =>
    obtain ⟨-, ⟨name, hname, hmessage⟩, hmarked⟩ := TypeTable.mapEntry?_eq_some.1 hentry
    obtain ⟨hkey, hvalue⟩ := h entry (List.mem_of_find?_eq_some hmessage) hmarked
    rw [List.any_eq_true, ← List.find?_isSome, Option.isSome_iff_exists] at hkey hvalue
    obtain ⟨key, hkey⟩ := hkey
    obtain ⟨value, hvalue⟩ := hvalue
    simp only [Option.isSome_some, if_true, hname, Option.getD_some, mapKind, hmessage, hkey,
      hvalue]
    exact ⟨_, rfl⟩

theorem exists_messagesOf (h : pool.EntriesComplete) : ∃ ms, messagesOf pool.types = .ok ms := by
  have hmessage : ∀ e, ∃ m, messageOf pool.types e = .ok m := by
    intro e
    obtain ⟨fs, hfs⟩ : ∃ fs, (byNumber e.fields).mapM (fieldOf pool.types) = .ok fs :=
      exists_mapM_of_forall fun g _ => exists_fieldOf h g
    exact ⟨_, bind_eq_ok.2 ⟨fs, hfs, rfl⟩⟩
  obtain ⟨ms, hms⟩ : ∃ ms, (pool.types.messages.filter fun m => !m.isMapEntry).mapM
      (messageOf pool.types) = .ok ms :=
    exists_mapM_of_forall fun e _ => hmessage e
  exact ⟨_, bind_eq_ok.2 ⟨ms, hms, rfl⟩⟩

/-- The message types of a catalog are those of the pool that are not entries of maps. -/
theorem messagesOf_eq_ok {ms : NameMap MessageType} (h : messagesOf types = .ok ms) :
    (∀ e ∈ types.messages, e.isMapEntry = false → ms.contains e.fullName) ∧
    ∀ name m, ms.get? name = some m → ∃ e ∈ types.messages, e.isMapEntry = false ∧
      ∀ f ∈ m.fields, ∃ g ∈ e.fields, fieldOf types g = .ok f := by
  obtain ⟨converted, hconverted, h⟩ := bind_eq_ok.1 h
  obtain rfl := (Except.ok.inj h).symm
  have hall := mapM_eq_ok.1 hconverted
  constructor
  · intro e he hentry
    obtain ⟨m, hm, hof⟩ := exists_of_forall₂ hall (List.mem_filter.2 ⟨he, by simp [hentry]⟩)
    obtain ⟨fields, -, hof⟩ := bind_eq_ok.1 hof
    obtain rfl := (Except.ok.inj hof).symm
    rw [NameMap.contains_ofList, List.map_map]
    exact List.mem_map.2 ⟨_, hm, rfl⟩
  · intro name m hget
    obtain ⟨m', hm', heq⟩ := List.mem_map.1 (NameMap.mem_of_get?_ofList hget)
    obtain ⟨rfl, rfl⟩ := Prod.mk.inj heq
    obtain ⟨e, he, hof⟩ := exists_of_forall₂ hall.flip hm'
    obtain ⟨he, hentry⟩ := List.mem_filter.1 he
    obtain ⟨fields, hfields, hof⟩ := bind_eq_ok.1 hof
    obtain rfl := (Except.ok.inj hof).symm
    refine ⟨e, he, by simpa using hentry, fun f hf => ?_⟩
    obtain ⟨g, hg, hfield⟩ := exists_of_forall₂ (mapM_eq_ok.1 hfields).flip hf
    exact ⟨g, List.mem_mergeSort.1 hg, hfield⟩

theorem targetOf_eq_ok {name : String} {f : ServiceFile} (h : targetOf pool name = .ok f) :
    ∃ file ∈ pool.files, ∀ s ∈ f.services, ∃ s' ∈ file.services, ∀ m ∈ s.methods,
      ∃ m' ∈ s'.methods, m.inputType = m'.input := by
  rw [targetOf] at h
  cases hfile : pool.file? name with
  | none =>
    rw [hfile] at h
    cases h
  | some file =>
    rw [hfile] at h
    refine ⟨file, List.mem_of_find?_eq_some hfile, ?_⟩
    obtain ⟨ss, hss, h⟩ := bind_eq_ok.1 h
    obtain rfl := (Except.ok.inj h).symm
    intro s hs
    obtain ⟨s', hs', hservice⟩ := exists_of_forall₂ (mapM_eq_ok.1 hss).flip hs
    obtain ⟨ms, hms, hservice⟩ := bind_eq_ok.1 hservice
    obtain rfl := (Except.ok.inj hservice).symm
    refine ⟨s', hs', fun m hm => ?_⟩
    obtain ⟨m', hm', hmethod⟩ := exists_of_forall₂ (mapM_eq_ok.1 hms).flip hm
    obtain ⟨resource, -, hmethod⟩ := bind_eq_ok.1 hmethod
    obtain ⟨verb, -, hmethod⟩ := bind_eq_ok.1 hmethod
    obtain rfl := (Except.ok.inj hmethod).symm
    exact ⟨m', hm', rfl⟩

theorem ofPool_eq_ok {targets : List String} (h : ofPool pool targets = .ok c) :
    messagesOf pool.types = .ok c.messages ∧
      ∀ f ∈ c.files, ∃ name, targetOf pool name = .ok f := by
  obtain ⟨ms, hms, h⟩ := bind_eq_ok.1 h
  obtain ⟨fs, hfs, h⟩ := bind_eq_ok.1 h
  obtain rfl := (Except.ok.inj h).symm
  refine ⟨hms, fun f hf => ?_⟩
  obtain ⟨name, -, hname⟩ := exists_of_forall₂ (mapM_eq_ok.1 (orStop_eq_ok.1 hfs)).flip hf
  exact ⟨name, hname⟩

/-- A message type that is named and is not the entry of a map is in the catalog. -/
theorem contains_of_message? {ms : NameMap MessageType} (h : messagesOf types = .ok ms)
    {name : String} {e : MessageEntry} (he : types.message? name = some e)
    (hentry : e.isMapEntry = false) : ms.contains name := by
  have hname : e.fullName = name := by simpa using List.find?_some he
  exact hname ▸ (messagesOf_eq_ok h).1 e (List.mem_of_find?_eq_some he) hentry

theorem closed_ofPool {targets : List String} (hresolves : pool.Resolves)
    (hplace : pool.EntriesInPlace) (h : ofPool pool targets = .ok c) : c.Closed := by
  obtain ⟨hms, hfiles⟩ := ofPool_eq_ok h
  -- An entry is named in place of a map only, and never inside of another entry.
  have hnamed : ∀ e ∈ pool.types.messages, ∀ g ∈ e.fields,
      e.isMapEntry = true ∨ pool.types.mapEntry? g = none →
      ∀ name ∈ (kindOf g.type).messageNames, c.messages.contains name := by
    intro e he g hg hplain name hname
    rw [messageNames_kindOf, Option.mem_toList] at hname
    obtain ⟨e', he'⟩ := hresolves.fields e he g hg name hname
    refine contains_of_message? hms he' (Bool.eq_false_iff.2 fun hentry => ?_)
    obtain ⟨hlabel, hmessage⟩ :=
      hplace.fields e he g hg (by simp [hname, TypeTable.isEntry, he', hentry])
    rcases hplain with hplain | hnone
    · rw [hplain] at hmessage
      cases hmessage
    · have hsome := TypeTable.mapEntry?_eq_some.2 ⟨hlabel, ⟨name, hname, he'⟩, hentry⟩
      rw [hnone] at hsome
      cases hsome
  have hfield : ∀ name m, c.message? name = some m → ∀ f ∈ m.fields,
      ∃ e ∈ pool.types.messages, ∃ g ∈ e.fields, fieldOf pool.types g = .ok f := by
    intro name m hm f hf
    obtain ⟨e, he, -, hfields⟩ := (messagesOf_eq_ok hms).2 name m hm
    obtain ⟨g, hg, hof⟩ := hfields f hf
    exact ⟨e, he, g, hg, hof⟩
  constructor
  case inputs =>
    intro f hf s hs m hm
    obtain ⟨target, htarget⟩ := hfiles f hf
    obtain ⟨file, hfile, hservices⟩ := targetOf_eq_ok htarget
    obtain ⟨s', hs', hmethods⟩ := hservices s hs
    obtain ⟨m', hm', hinput⟩ := hmethods m hm
    obtain ⟨e, he⟩ := hresolves.inputs file hfile s' hs' m' hm'
    have hentry := hplace.inputs file hfile s' hs' m' hm'
    rw [TypeTable.isEntry, he, Option.any_some] at hentry
    exact hinput ▸ contains_of_message? hms he hentry
  case kinds =>
    intro name m hm f hf n hn
    obtain ⟨e, he, g, hg, hof⟩ := hfield name m hm f hf
    obtain ⟨entry, hentry, -, key, hkey, value, hvalue, hkind⟩ | ⟨hnone, hkind⟩ :=
      fieldOf_eq_ok hof
    · obtain ⟨-, ⟨_, -, hmessage⟩, hmarked⟩ := TypeTable.mapEntry?_eq_some.1 hentry
      have hmem := List.mem_of_find?_eq_some hmessage
      rw [hkind, FieldKind.messageNames] at hn
      rcases List.mem_append.1 hn with hn | hn
      · exact hnamed entry hmem key hkey (.inl hmarked) n hn
      · exact hnamed entry hmem value hvalue (.inl hmarked) n hn
    · exact hnamed e he g hg (.inr hnone) n (hkind ▸ hn)
  case single =>
    intro name m hm f hf hmap
    obtain ⟨e, he, g, hg, hof⟩ := hfield name m hm f hf
    obtain ⟨entry, -, hrepeated, -⟩ | ⟨-, hkind⟩ := fieldOf_eq_ok hof
    · exact hrepeated
    · simp [hkind] at hmap
  case flat =>
    intro name m hm f hf key value hmap
    obtain ⟨e, he, g, hg, hof⟩ := hfield name m hm f hf
    obtain ⟨entry, -, -, k, -, v, -, hkind⟩ | ⟨-, hkind⟩ := fieldOf_eq_ok hof
    · obtain ⟨rfl, rfl⟩ := FieldKind.map.inj (hmap.symm.trans hkind)
      simp
    · have hnot := isMap_kindOf g.type
      rw [← hkind, hmap] at hnot
      cases hnot

end Catalog

namespace Catalog.Closed

open Generation

variable {c : Catalog} {settings : Settings}

theorem contains_of_embeds (h : c.Closed) {a b : String} (he : c.Embeds a b) :
    c.messages.contains b := by
  obtain ⟨m, hm, f, hf, -, hkind⟩ := he
  exact h.kinds a m hm f hf b (by simp [hkind, FieldKind.messageNames])

/-- Only groups are beyond the flags of a closed catalog. -/
theorem group_of_unsupported (h : c.Closed) {name : String} {m : MessageType} {f : Field}
    {kind : UnsupportedKind} (hm : c.message? name = some m) (hf : f ∈ m.fields)
    (hkind : f.contribution = .unsupported kind) :
    ∃ group, kind = .group group ∧ f.kind = .group group := by
  have hsingle := h.single name m hm f hf
  obtain ⟨fieldName, fieldKind, repeated⟩ := f
  cases fieldKind with
  | scalar | enumeration | message => cases repeated <;> simp [Field.contribution] at hkind
  | map key value =>
    obtain rfl : repeated = false := hsingle rfl
    simp only [Field.contribution, Bool.false_eq_true, if_false] at hkind
    split at hkind <;> cases hkind
  | group group =>
    refine ⟨group, ?_, rfl⟩
    cases repeated <;> exact (Contribution.unsupported.inj hkind).symm

/-- Gathering the flags of a method fails in flattening its request type, or as reserved. -/
theorem causes_of_gather {flags : Flags} {m : Method} {e : Failure}
    (h : (gather c flags m).outcome = .error (.failure e))
    (hreserved : ∀ message, e ≠ .reservedFlag message) :
    (e = .unknownMessage m.inputType ∧ c.message? m.inputType = none) ∨ c.Causes e := by
  obtain ⟨-, ⟨e', he', heq⟩ | ⟨x, -, -, heq⟩⟩ := gather_eq_error.1 h
  · exact Stop.failure.inj heq ▸ Flattener.causes_of_error he'
  · exact absurd (Stop.failure.inj heq) (hreserved _)

/-- A run over a closed catalog does not miss a message type. -/
theorem generate_ne_unknown (h : c.Closed) (name : String) :
    (generate c settings).outcome ≠ .error (.failure (.unknownMessage name)) := by
  intro hrun
  have hknown : ¬(c.messages.contains name = true ∧ c.message? name = none) := by
    rintro ⟨hcontains, hnone⟩
    obtain ⟨m, hm⟩ := NameMap.contains_iff.1 hcontains
    cases hnone.symm.trans hm
  obtain ⟨f, s, m, flags, hmeets, hgather⟩ | ⟨_, _, _, _, heq⟩ | ⟨_, heq⟩ | ⟨_, _, _, heq⟩ :=
    meets_of_failure hrun
  · obtain ⟨hf, hs, hm⟩ := hmeets.mem
    obtain ⟨heq, hnone⟩ | ⟨hnone, a, ha⟩ := causes_of_gather hgather nofun
    · obtain rfl := Failure.unknownMessage.inj heq
      exact hknown ⟨h.inputs f hf s hs m hm, hnone⟩
    · exact hknown ⟨h.contains_of_embeds ha, hnone⟩
  all_goals cases heq

/-- A run over a closed catalog fails on account of the kind of a field only if that is a group. -/
theorem generate_unsupported (h : c.Closed) {message field : String} {kind : UnsupportedKind}
    (hrun : (generate c settings).outcome =
      .error (.failure (.unsupportedFieldKind message field kind))) :
    ∃ group, kind = .group group ∧ ∃ m, c.message? message = some m ∧
      ∃ f ∈ m.fields, f.name = field ∧ f.kind = .group group := by
  obtain ⟨_, _, _, _, -, hgather⟩ | ⟨_, _, _, _, heq⟩ | ⟨_, heq⟩ | ⟨_, _, _, heq⟩ :=
    meets_of_failure hrun
  · obtain ⟨heq, -⟩ | ⟨m, hm, f, hf, hname, hkind⟩ := causes_of_gather hgather nofun
    · cases heq
    · obtain ⟨group, hgroup, hfield⟩ := h.group_of_unsupported hm hf hkind
      exact ⟨group, hgroup, m, hm, f, hf, hname, hfield⟩
  all_goals cases heq

end Catalog.Closed

/-- Runs over the catalog do not miss a message type, and no field but a group is beyond them. -/
def Catalog.Suffices (c : Catalog) : Prop :=
  ∀ settings, (∀ name, (generate c settings).outcome ≠ .error (.failure (.unknownMessage name))) ∧
    ∀ message field kind,
      (generate c settings).outcome =
        .error (.failure (.unsupportedFieldKind message field kind)) →
      ∃ group, kind = .group group ∧ ∃ m, c.message? message = some m ∧
        ∃ f ∈ m.fields, f.name = field ∧ f.kind = .group group

theorem Catalog.Closed.suffices {c : Catalog} (h : c.Closed) : c.Suffices :=
  fun _ => ⟨h.generate_ne_unknown, fun _ _ _ => h.generate_unsupported⟩

namespace Catalog

/-- The catalog of a pool is closed if references lead into the pool and entries of maps are where
compilers put them. References in the files of a request always lead into their pool. -/
theorem ofPool_closed :
    (∀ (pool : Pool) (targets : List String) (c : Catalog), pool.Resolves →
      pool.EntriesInPlace → ofPool pool targets = .ok c → c.Closed ∧ c.Suffices) ∧
    ∀ (bytes : Wire.Bytes) (raw : RawRequest) (pool : Pool) (request : Request),
      RawRequest.ofBytes bytes = .ok raw → Request.poolOf raw.files = .ok pool →
      pool.EntriesInPlace → Request.ofBytes bytes = .ok request →
      request.catalog.Closed ∧ request.catalog.Suffices := by
  have hclosed : ∀ (pool : Pool) (targets : List String) (c : Catalog), pool.Resolves →
      pool.EntriesInPlace → ofPool pool targets = .ok c → c.Closed ∧ c.Suffices := by
    intro pool targets c hresolves hplace h
    have hc := closed_ofPool hresolves hplace h
    exact ⟨hc, hc.suffices⟩
  refine ⟨hclosed, fun bytes raw pool request hraw hpool hplace h => ?_⟩
  rw [Request.ofBytes_of_poolOf hraw hpool] at h
  obtain ⟨c, hc, rfl⟩ := map_eq_ok.1 h
  exact hclosed pool raw.targets c (Request.resolves_poolOf hpool) hplace hc

end Catalog

namespace Sample

def albumsFile : FileRecord :=
  file "acme.proto" "acme"
    [withMap (message "Album" [field "title" 1 (.scalar .string)]) "acme.Album" "photos" 2 .message
      (some ".acme.Photo"),
     message "Photo" [field "id" 1 (.scalar .int64)]]
    [] [service "Albums" [method "GetAlbum" ".acme.Album"]]

def albums : Wire.Bytes := request ["acme.proto"] "" [albumsFile]

theorem raw_albums : RawRequest.ofBytes albums =
    .ok ⟨["acme.proto"], some "", [albumsFile.write]⟩ := by
  decide +kernel

theorem pool_albums : ∃ pool, Request.poolOf [albumsFile.write] = .ok pool ∧
    pool.EntriesInPlace ∧ pool.EntriesComplete ∧ pool.types.isEntry "acme.Album.PhotosEntry" ∧
    ∃ fs, ["acme.proto"].mapM (Catalog.targetOf pool) = .ok fs := by
  have hpool : (Request.poolOf [albumsFile.write]).toOption.any (fun pool =>
      pool.EntriesInPlace ∧ pool.EntriesComplete ∧ pool.types.isEntry "acme.Album.PhotosEntry" ∧
      (["acme.proto"].mapM (Catalog.targetOf pool)).toBool) = true := by
    decide +kernel
  cases hpoolOf : Request.poolOf [albumsFile.write] with
  | error stop => simp [hpoolOf, Except.toOption] at hpool
  | ok pool =>
    simp only [hpoolOf, Except.toOption, Option.any_some, decide_eq_true_eq] at hpool
    obtain ⟨hplace, hcomplete, hentry, htargets⟩ := hpool
    refine ⟨pool, rfl, hplace, hcomplete, hentry, ?_⟩
    cases hfs : ["acme.proto"].mapM (Catalog.targetOf pool) with
    | error e => simp [hfs, Except.toBool] at htargets
    | ok fs => exact ⟨fs, rfl⟩

/-- The entries of the map of an album are in the pool and not in the catalog, which is closed. -/
theorem closed_albums : ∃ pool request, Request.poolOf [albumsFile.write] = .ok pool ∧
    pool.types.isEntry "acme.Album.PhotosEntry" ∧
    Catalog.ofPool pool ["acme.proto"] = .ok request.catalog ∧
    Request.ofBytes albums = .ok request ∧ request.catalog.Closed ∧ request.catalog.Suffices := by
  obtain ⟨pool, hpool, hplace, hcomplete, hentry, fs, hfs⟩ := pool_albums
  obtain ⟨ms, hms⟩ := Catalog.exists_messagesOf hcomplete
  have hc : Catalog.ofPool pool ["acme.proto"] = .ok ⟨fs, ms⟩ :=
    bind_eq_ok.2 ⟨ms, hms, bind_eq_ok.2 ⟨fs, orStop_eq_ok.2 hfs, rfl⟩⟩
  have hrequest : Request.ofBytes albums = .ok ⟨"", ⟨fs, ms⟩⟩ := by
    rw [Request.ofBytes_of_poolOf raw_albums hpool, hc]
    rfl
  have hclosed := (Catalog.ofPool_closed.1 pool _ _ (Request.resolves_poolOf hpool) hplace hc).1
  have hsuffices := (Catalog.ofPool_closed.2 _ _ pool _ raw_albums hpool hplace hrequest).2
  exact ⟨pool, ⟨"", ⟨fs, ms⟩⟩, hpool, hentry, hc, hrequest, hclosed, hsuffices⟩

end Sample

end ServiceCli
