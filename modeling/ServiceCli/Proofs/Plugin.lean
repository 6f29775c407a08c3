import ServiceCli.Plugin
import ServiceCli.Proofs.Decoding
import ServiceCli.Proofs.Generation.Functions
import ServiceCli.Proofs.Response.RoundTrip
import ServiceCli.Proofs.Settings
import ServiceCli.Sample

/-!
What a run answers: all of the generated files or an error and none of them, and the same whatever
is asked of the log.
-/
namespace ServiceCli

open Wire (Bytes)

theorem Generation.files_unlogged {α : Type} (c : Catalog) (settings : Settings)
    (nameOf : String → String) (write : FilePlan → Except Stop α) (fs : List ServiceFile)
    (flattener : Flattener) :
    files c settings.unlogged nameOf write fs flattener =
      files c settings nameOf write fs flattener := by
  induction fs generalizing flattener with
  | nil => rfl
  | cons f fs ih =>
    simp only [files, ih]
    rfl

/-- Generation does not look at the log setting. -/
theorem generate_unlogged (c : Catalog) (settings : Settings) :
    generate c settings.unlogged = generate c settings := by
  rw [generate, generate, Generation.run, Generation.run, Generation.files_unlogged]

/-- What is generated for a catalog depends on the settings other than that of the log, or on the
failure to understand them. -/
theorem generate_eq_unlogged (c : Catalog) (x : Except Failure Settings) :
    (orStop x >>= fun settings => (generate c settings).outcome) =
      (orStop (x.map Settings.unlogged) >>= fun settings => (generate c settings).outcome) := by
  cases x with
  | error e => rfl
  | ok settings => exact congrArg Logged.outcome (generate_unlogged c settings).symm

theorem outcome_ofRequest {α : Type} {bytes : Bytes} {raw : RawRequest}
    (hraw : RawRequest.ofBytes bytes = .ok raw) (f : Catalog → Settings → Logged α) :
    (ofRequest bytes f).outcome = (Request.catalogOf raw.targets raw.files >>= fun c =>
      orStop (Settings.ofParameter (raw.parameter.getD "")) >>= fun settings =>
        (f c settings).outcome) := by
  simp only [ofRequest, Logged.outcome_bind, Logged.outcome_ofExcept, Logged.outcome_ofFailing,
    Request.ofBytes_of_raw hraw]
  cases Request.catalogOf raw.targets raw.files <;> rfl

/-- A response that is generated has no error. -/
theorem error_of_ofRequest {bytes : Bytes} {r : Response}
    (h : (ofRequest bytes generate).outcome = .ok r) : r.error = none := by
  simp only [ofRequest, Logged.outcome_bind, bind_eq_ok] at h
  obtain ⟨_, -, _, -, hgenerate⟩ := h
  obtain ⟨_, -, rfl⟩ := Generation.generate_eq_ok.1 hgenerate
  rfl

namespace Plugin

/-- The response to what generation comes to; none if it breaks down. -/
def responseTo : Except Stop Response → Option Response
  | .ok r => some r
  | .error (.failure e) => some { error := some e.message }
  | .error (.crash _) => none

/-- What a run writes to its output, if it does not break down. -/
def Ending.output? : Ending → Option Bytes
  | answered stdout _ => some stdout
  | crashed _ => none

theorem Ending.output?_eq_some {e : Ending} {b : Bytes} :
    e.output? = some b ↔ ∃ log, e = .answered b log := by
  cases e <;> simp [output?]

theorem Ending.output?_eq_none {e : Ending} : e.output? = none ↔ ∃ log, e = .crashed log := by
  cases e <;> simp [output?]

theorem responseTo_eq_none {x : Except Stop Response} :
    responseTo x = none ↔ ∃ c, x = .error (.crash c) := by
  rcases x with (e | c) | r <;> simp [responseTo]

variable {request : Bytes} {environment : Option String} {r : Response}

/-- The log and its filter have no part in the output. -/
theorem output?_run (request : Bytes) (environment : Option String) :
    (run request environment).output? =
      (responseTo (ofRequest request generate).outcome).map Response.write := by
  rw [run, respond]
  rcases h : (ofRequest request generate).outcome with (e | c) | r <;>
    simp [h, responseTo, Ending.output?]

theorem run_eq_crashed : (∃ log, run request environment = .crashed log) ↔
    ∃ c, (ofRequest request generate).outcome = .error (.crash c) := by
  rw [← Ending.output?_eq_none, output?_run, Option.map_eq_none_iff, responseTo_eq_none]

theorem run_eq_answered (hresponse : responseTo (ofRequest request generate).outcome = some r) :
    ∃ log, run request environment = .answered r.write log := by
  rw [← Ending.output?_eq_some, output?_run, hresponse]
  rfl

/-- What is found in an answer: the files of a generation that succeeds, or the message of a
failure. -/
theorem ofBytes_answer (hresponse : responseTo (ofRequest request generate).outcome = some r)
    (hlen : r.write.length < Number.rangeSize 64) :
    ((ofRequest request generate).outcome = .ok r ∧ Received.ofBytes r.write =
      .ok { error := none, features := some 1, files := r.files.map (·.received) }) ∨
    ∃ e, (ofRequest request generate).outcome = .error (.failure e) ∧ Received.ofBytes r.write =
      .ok { error := some e.message, features := some 1, files := [] } := by
  rw [Response.ofBytes_write hlen]
  rcases h : (ofRequest request generate).outcome with (e | c) | r' <;> rw [h] at hresponse <;>
    cases hresponse
  · exact .inr ⟨e, rfl, rfl⟩
  · rw [Response.received, error_of_ofRequest h]
    exact .inl ⟨rfl, rfl⟩

/-- A run breaks down only if generation does. Otherwise it exits with zero, and what it wrote is
found to be the generated files as they are, in order and without an error, or else the message of
the failure and no file. The answer is the same for any two requests that differ in the value of a
log setting and nothing else. That an answer is shorter than `2 ^ 64` says only that there is such a
buffer. -/
theorem run_answers :
    (∀ (request : Bytes) (environment : Option String),
      (∃ log, run request environment = .crashed log) ↔
        ∃ c, (ofRequest request generate).outcome = .error (.crash c)) ∧
    (∀ (request : Bytes) (environment : Option String),
      (∀ log, run request environment ≠ .crashed log) →
        ∃ stdout log, run request environment = .answered stdout log ∧
          (run request environment).exitCode = 0 ∧
          (stdout.length < Number.rangeSize 64 →
            (∃ r, (ofRequest request generate).outcome = .ok r ∧ Received.ofBytes stdout =
              .ok { error := none, features := some 1, files := r.files.map (·.received) }) ∨
            ∃ e, (ofRequest request generate).outcome = .error (.failure e) ∧
              Received.ofBytes stdout =
                .ok { error := some e.message, features := some 1, files := [] })) ∧
    ∀ (targets : List String) (files : List Bytes) (before after : List String)
      (key value value' : String) (request request' : Bytes)
      (environment environment' : Option String),
      Text.trim key.toList = "log".toList → ',' ∉ value.toList → ',' ∉ value'.toList →
      RawRequest.ofBytes request = .ok
        ⟨targets, some (",".intercalate (before ++ (key ++ "=" ++ value) :: after)), files⟩ →
      RawRequest.ofBytes request' = .ok
        ⟨targets, some (",".intercalate (before ++ (key ++ "=" ++ value') :: after)), files⟩ →
      (run request environment).output? = (run request' environment').output? := by
  refine ⟨fun _ _ => run_eq_crashed, fun request environment hrun => ?_, ?_⟩
  · have hanswered : responseTo (ofRequest request generate).outcome ≠ none := fun hnone => by
      obtain ⟨log, hlog⟩ := run_eq_crashed.2 (responseTo_eq_none.1 hnone)
      exact hrun log hlog
    obtain ⟨r, hresponse⟩ := Option.ne_none_iff_exists'.1 hanswered
    obtain ⟨log, hlog⟩ := run_eq_answered hresponse
    refine ⟨r.write, log, hlog, by rw [hlog]; rfl, fun hlen => ?_⟩
    obtain ⟨houtcome, hread⟩ | hfailed := ofBytes_answer hresponse hlen
    · exact .inl ⟨r, houtcome, hread⟩
    · exact .inr hfailed
  · intro targets files before after key value value' request request' environment environment'
      hkey hvalue hvalue' hraw hraw'
    have hsettings := Settings.unlogged_eq_of_log before after hkey hvalue hvalue'
    rw [output?_run, output?_run, outcome_ofRequest hraw, outcome_ofRequest hraw']
    simp only [Option.getD_some, generate_eq_unlogged _ (Settings.ofParameter _), hsettings]

def usersFile : Descriptor.FileRecord :=
  Sample.file "acme.proto" "acme" [] [] [Sample.service "Users" []]

def usersRequest (parameter : String) : Bytes :=
  Sample.request ["acme.proto"] parameter [usersFile]

/-- The file of a service without methods is answered, whatever the log setting; bytes that are no
request are answered with an error. -/
theorem run_answers_users :
    (∃ r stdout log, run (usersRequest "log=info") none = .answered stdout log ∧
      (ofRequest (usersRequest "log=info") generate).outcome = .ok r ∧
      r.files.map (·.name) = ["acme.cli.rs"] ∧ Received.ofBytes stdout =
        .ok { error := none, features := some 1, files := r.files.map (·.received) }) ∧
    (∃ stdout log, run [0xff] none = .answered stdout log ∧ Received.ofBytes stdout =
      .ok { error := some "decode error: failed to decode Protobuf message: invalid varint"
            features := some 1 }) ∧
    (run (usersRequest "layout=resource, log =info") none).output? =
      (run (usersRequest "layout=resource, log =users=trace") (some "off")).output? := by
  refine ⟨?_, ?_, ?_⟩
  · have hnames : (ofRequest (usersRequest "log=info") generate).outcome.map
        (fun r => r.files.map (·.name)) = .ok ["acme.cli.rs"] := rfl
    have hlen : (run (usersRequest "log=info") none).output?.any
        (·.length < Number.rangeSize 64) = true := rfl
    obtain ⟨r, hr, hfiles⟩ := map_eq_ok.1 hnames
    obtain ⟨stdout, log, hlog, -, hread⟩ := run_answers.2.1 (usersRequest "log=info") none
      fun log hlog => by simp [hlog, Ending.output?] at hlen
    obtain ⟨r', hr', hread⟩ | ⟨e, he, -⟩ :=
      hread (by simpa [hlog, Ending.output?] using hlen)
    · cases hr.symm.trans hr'
      exact ⟨r, stdout, log, hlog, hr, hfiles, hread⟩
    · cases hr.symm.trans he
  · have hfailed : (ofRequest [0xff] generate).outcome =
        .error (.failure (.decode (.wire none .badVarint))) := rfl
    have hlen : (run [0xff] none).output?.any (·.length < Number.rangeSize 64) = true := rfl
    obtain ⟨stdout, log, hlog, -, hread⟩ := run_answers.2.1 [0xff] none
      fun log hlog => by simp [hlog, Ending.output?] at hlen
    obtain ⟨r, hr, -⟩ | ⟨e, he, hread⟩ := hread (by simpa [hlog, Ending.output?] using hlen)
    · cases hfailed.symm.trans hr
    · cases hfailed.symm.trans he
      exact ⟨stdout, log, hlog, hread⟩
  · exact run_answers.2.2 ["acme.proto"] [usersFile.write] ["layout=resource"] [] " log " "info"
      "users=trace" _ _ _ _ rfl (by decide) (by decide) rfl rfl

end Plugin

end ServiceCli
