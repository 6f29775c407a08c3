import ServiceCli.Proofs.Sample.RoundTrip

/-!
The parameter of a request can be had without its files. It is read from the fields of the request
alone, so the files may hold anything, and it is the one that a full reading gives.
-/
namespace ServiceCli.Sample

open Descriptor (FileRecord)
open Wire (Bytes)

/-- Files are written into a request as they are written on their own. -/
theorem request_eq_rawRequest (targets : List String) (parameter : String)
    (files : List FileRecord) :
    request targets parameter files = rawRequest targets parameter (files.map (·.write)) := by
  rw [request, rawRequest, Wire.writeAll, Wire.writeAll, Wire.writeAll, List.flatMap_map]
  rfl

/-- Whatever is in the files, the parameter that a request was made with can be peeked at, and a
request that can be read in full has the parameter that is peeked at. Requests with files as records
and with the same files as bytes are the same. That the request is shorter than `2 ^ 64` says only
that there is such a buffer. -/
theorem peekParameter_rawRequest :
    (∀ (targets : List String) (parameter : String) (files : List Bytes),
      (rawRequest targets parameter files).length < Number.rangeSize 64 →
        peekParameter (rawRequest targets parameter files) = .ok parameter) ∧
    (∀ (bytes : Bytes) (r : Request), Request.ofBytes bytes = .ok r →
      peekParameter bytes = .ok r.parameter) ∧
    ∀ (targets : List String) (parameter : String) (files : List FileRecord),
      request targets parameter files = rawRequest targets parameter (files.map (·.write)) := by
  refine ⟨fun targets parameter files hlen => ?_, fun bytes r => Request.peekParameter_of_ofBytes,
    request_eq_rawRequest⟩
  rw [peekParameter, ofBytes_rawRequest hlen]
  rfl

/-- A request with a truncated key and a number without an end for files is peeked at, but cannot be
read in full; one without files can. -/
theorem peekParameter_rawRequest_garbage :
    peekParameter (rawRequest ["a.proto"] "log=debug" [[0x0a], [0xff, 0xff]]) = .ok "log=debug" ∧
    (∃ e, Request.ofBytes (rawRequest ["a.proto"] "log=debug" [[0x0a], [0xff, 0xff]]) =
      .error e) ∧
    ∃ r, Request.ofBytes (rawRequest [] "log=debug" []) = .ok r ∧
      peekParameter (rawRequest [] "log=debug" []) = .ok r.parameter := by
  refine ⟨peekParameter_rawRequest.1 _ _ _ (by decide), ⟨_, rfl⟩, _, rfl, ?_⟩
  exact peekParameter_rawRequest.2.1 _ _ rfl

end ServiceCli.Sample
