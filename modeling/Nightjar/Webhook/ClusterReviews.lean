import Nightjar.Webhook.Admission
import Nightjar.Discovery.ClusterMirror
import Nightjar.Lib.Json

namespace Nightjar.Webhook

open Lib Lib.Strings Apimachinery Adapters Discovery Api

/-- A request to the admission endpoint. Reading its body may fail. -/
structure ReviewPost where
  method : String
  contentType : String
  body : Except String (List UInt8)

/-- The decoding of an `AdmissionReview`, whose request may be nil, and the encoding of one with a
response and the message of its result. -/
class ReviewCodec where
  decode : List UInt8 → Except String (Option AdmissionRequest)
  encode : Option AdmissionRequest → AdmissionResponse → String → Except String (List UInt8)

inductive ReviewReply where
  | error (statusCode : Nat) (body : String)
  | review (response : AdmissionResponse) (message : String)

def maxBodySize : Nat := 2 ^ 20

section Handle
variable [Unicode] [ReviewCodec]

omit [Unicode] in
def sendResponse (request : Option AdmissionRequest) (response : AdmissionResponse) (message : String) : ReviewReply :=
  match ReviewCodec.encode request response message with
  | .error _ => .error 500 "Failed to marshal response\n"
  | .ok _ => .review response message

/-- `AdmissionHandler.Handle`. The body is read up to the limit, and what comes after it is not decoded. -/
def handle (client : String → List (String × String) → Except String (List Constraint)) (r : ReviewPost) :
    ReviewReply :=
  if r.method ≠ "POST" then .error 405 "Method not allowed\n"
  else if ¬ "application/json".toList <+: r.contentType.toList then
    .error 415 "Content-Type must be application/json\n"
  else
    match r.body with
    | .error _ => .error 400 "Failed to read body\n"
    | .ok body =>
        match ReviewCodec.decode (body.take maxBodySize) with
        | .error _ => sendResponse none { allowed := true } "Failed to decode request, allowing by default"
        | .ok request => sendResponse request (processRequest client request) ""

omit [ReviewCodec] in
theorem allowed_processRequest (client : String → List (String × String) → Except String (List Constraint))
    (req : Option AdmissionRequest) : (processRequest client req).allowed = true := by
  cases req with
  | none => rfl
  | some req =>
      simp only [processRequest]
      split <;> rfl

omit [Unicode] in
theorem eq_of_sendResponse {request : Option AdmissionRequest} {response response' : AdmissionResponse}
    {message message' : String} (h : sendResponse request response message = .review response' message') :
    response' = response := by
  rw [sendResponse] at h
  split at h
  · cases h
  · cases h
    rfl

theorem allowed_of_handle {client : String → List (String × String) → Except String (List Constraint)} {r : ReviewPost}
    {response : AdmissionResponse} {message : String} (h : handle client r = .review response message) :
    response.allowed = true := by
  rw [handle] at h
  split at h
  · cases h
  · split at h
    · cases h
    · split at h
      · cases h
      · split at h
        · rw [eq_of_sendResponse h]
        · rw [eq_of_sendResponse h]
          exact allowed_processRequest client _

end Handle

section Cluster
variable [Apimachinery] [Unicode] {α : Type} [SlottedAdapter α] {hs : List (Arrival α)}

/-- The constraints that the adapters make of the cluster for a request: those of the namespace, and for
an object without a namespace all of them. -/
def concerning (hs : List (Arrival α)) (ns : String) : List Constraint :=
  ((Arrival.live hs).values.flatMap Arrival.constraints).filter (fun c => decide (ns = "") || matchesNamespace c ns)

omit [Apimachinery] [Unicode] in
theorem query_controller_eq (idx : Indexer) (ns : String) (labels : List (String × String)) :
    query (controller idx) ns labels =
      .ok ((idx.all.filter (fun c => decide (ns = "") || matchesNamespace c ns)).map stripRawObject) := by
  by_cases hns : ns = ""
  · subst hns
    simp [query, controller, serveHTTP]
  · rw [query_controller hns, Indexer.byNamespace]
    simp [hns]

omit [Apimachinery] in
theorem warnings_eq (idx : Indexer) (req : AdmissionRequest) :
    (processRequest (query (controller idx)) (some req)).warnings =
      buildWarnings req (idx.all.filter (fun c => decide (req.ns = "") || matchesNamespace c req.ns)) := by
  rw [processRequest, query_controller_eq]
  dsimp only
  rw [buildWarnings, buildWarnings, warned_strip, List.map_map]
  rfl

variable [ReviewCodec]

/-- From the cluster to the admission review: a request that is posted is answered under its UID, with a
warning of each constraint that the adapters make of the latest version of a live object for the namespace
of the request, if its severity is one to warn of and it applies to the kind. Nothing is ever rejected, also
when the request is not understood or the controller fails. -/
theorem reviews_mirror_cluster (hwatched : ∀ a ∈ hs, a.gvr ∈ a.engine.watchedGVRs)
    (huuid : ∀ a ∈ hs, Correlator.isUUID a.uid = true) (hslots : Arrival.SameSlots hs)
    {req : AdmissionRequest}
    (hencode : ∀ response message, ∃ bytes, ReviewCodec.encode (some req) response message = .ok bytes)
    {r : ReviewPost} {body : List UInt8} (hmethod : r.method = "POST")
    (htype : "application/json".toList <+: r.contentType.toList) (hbody : r.body = .ok body)
    (hdecode : ReviewCodec.decode (body.take maxBodySize) = .ok (some req)) :
    (∃ response, handle (query (controller (Arrival.follow .new hs))) r = .review response "" ∧
      response.uid = req.uid ∧ response.warnings.Perm (buildWarnings req (concerning hs req.ns))) ∧
    ∀ client r' response message, handle client r' = .review response message → response.allowed = true := by
  refine ⟨⟨processRequest (query (controller (Arrival.follow .new hs))) (some req), ?_, ?_, ?_⟩, ?_⟩
  · obtain ⟨bytes, hbytes⟩ := hencode (processRequest (query (controller (Arrival.follow .new hs))) (some req)) ""
    rw [handle, if_neg (not_not.mpr hmethod), if_neg (not_not.mpr htype)]
    simp only [hbody, hdecode, sendResponse, hbytes]
  · rw [processRequest, query_controller_eq]
  · rw [warnings_eq]
    exact (((Arrival.index_mirrors_cluster hwatched huuid hslots).filter _).filter _).map _
  · intro client r' response message h
    exact allowed_of_handle h

end Cluster

section Sample
attribute [local instance] Apimachinery.model asciiTables

open Arrival

def requestJson : Json :=
  .obj [("uid", .str "r"),
    ("kind", .obj [("group", .str "apps"), ("version", .str "v1"), ("kind", .str "Deployment")]),
    ("resource", .obj [("group", .str "apps"), ("version", .str "v1"), ("resource", .str "deployments")]),
    ("namespace", .str "team"), ("operation", .str "CREATE"), ("userInfo", .obj []),
    ("object", .obj [("metadata", .obj [("labels", .obj [("app", .str "web")])])]),
    ("oldObject", .null), ("options", .null)]

def responseJson (response : AdmissionResponse) (message : String) : Json :=
  .obj ([("uid", .str response.uid), ("allowed", .bool response.allowed)] ++
    (if message = "" then [] else [("status", .obj [("metadata", .obj []), ("message", .str message)])]) ++
    if response.warnings = [] then [] else [("warnings", .arr (response.warnings.map .str))])

def reviewBytes (fields : List (String × Json)) : List UInt8 :=
  (Json.obj ([("kind", .str "AdmissionReview"), ("apiVersion", .str "admission.k8s.io/v1")] ++ fields)).render.map
    (fun c => .ofNat c.toNat)

@[reducible] def deployCodec : ReviewCodec where
  decode body :=
    if body = reviewBytes [("request", requestJson)] then .ok (some (deploy "web"))
    else .error "couldn't get version/kind"
  encode
    | none, response, message => .ok (reviewBytes [("response", responseJson response message)])
    | some _, response, message =>
        .ok (reviewBytes [("request", requestJson), ("response", responseJson response message)])

attribute [local instance] deployCodec

def deployPost : ReviewPost :=
  ⟨"POST", "application/json; charset=utf-8", .ok (reviewBytes [("request", requestJson)])⟩

theorem decode_deployPost :
    ReviewCodec.decode ((reviewBytes [("request", requestJson)]).take maxBodySize) = .ok (some (deploy "web")) := by
  have hlength : (reviewBytes [("request", requestJson)]).length ≤ maxBodySize := by decide +kernel
  rw [List.take_of_length_le hlength]
  exact if_pos rfl

def policyHistory : List (Arrival Builtin) :=
  [of NetworkPolicy.gvr (.added (uidObject "0c6e8f5a-93d1-4b7e-a2f4-5d8b1e7c3a90" [("podSelector", .map [])])),
    of LimitRange.gvr (.added (limitRange []))]

theorem watched_policyHistory : ∀ a ∈ policyHistory, a.gvr ∈ a.engine.watchedGVRs := by
  simp [policyHistory, of, mem_watching]

theorem isUUID_policyHistory : ∀ a ∈ policyHistory, Correlator.isUUID a.uid = true := by
  simp only [policyHistory, List.forall_mem_cons]
  exact ⟨by decide, by decide, by simp⟩

theorem sameSlots_policyHistory : SameSlots policyHistory := by
  have hslots : ∀ a ∈ policyHistory,
      a.slots = if a.uid = getUID twoLimits.object then [.entry 0, .entry 1] else [.whole] := by
    simp only [policyHistory, List.forall_mem_cons]
    exact ⟨by decide, rfl, by simp⟩
  constructor
  · intro a ha
    rw [hslots a ha]
    split <;> decide
  · intro a ha a' ha' hu
    rw [hslots a ha, hslots a' ha', hu]
    exact fun _ => id

theorem reviews_mirror_cluster_policy :
    ∃ response, handle (query (controller (follow .new policyHistory))) deployPost = .review response "" ∧
      response.uid = "r" ∧ response.warnings.length = 1 := by
  have hencode (response : AdmissionResponse) (message : String) :
      ∃ bytes, ReviewCodec.encode (some (deploy "web")) response message = .ok bytes := ⟨_, rfl⟩
  have htype : "application/json".toList <+: deployPost.contentType.toList := by decide
  obtain ⟨⟨response, hreply, huid, hwarnings⟩, -⟩ := reviews_mirror_cluster watched_policyHistory
    isUUID_policyHistory sameSlots_policyHistory hencode (show deployPost.method = "POST" from rfl) htype rfl
    decode_deployPost
  exact ⟨response, hreply, huid, hwarnings.length_eq.trans (by decide +kernel)⟩

end Sample

end Nightjar.Webhook
