import Mathlib.Data.List.Forall2
import SiteSearch.Http.Service
import SiteSearch.Proofs.Digest.Delimited

-- What a server with a key shows to those who do not have it. The padded comparison of keys is
-- equality, so a request without the key is answered before anything reads the session, or by the
-- health route, which does not read it either.
namespace SiteSearch.Http

theorem foldl_or_eq_zero_iff (bytes : List UInt8) (start : UInt8) :
    bytes.foldl (· ||| ·) start = 0 ↔ start = 0 ∧ ∀ byte ∈ bytes, byte = 0 := by
  induction bytes generalizing start with
  | nil => simp
  | cons byte rest ih =>
    rw [List.foldl_cons, ih, UInt8.or_eq_zero_iff, List.forall_mem_cons, and_assoc]

theorem zipWith_xor_zero_iff {as bs : List UInt8} (sizes : as.length = bs.length) :
    (∀ byte ∈ List.zipWith (· ^^^ ·) as bs, byte = 0) ↔ as = bs := by
  induction as generalizing bs with
  | nil =>
    obtain rfl := List.length_eq_zero_iff.mp sizes.symm
    simp
  | cons a as ih =>
    cases bs with
    | nil => cases sizes
    | cons b bs =>
      rw [List.zipWith_cons_cons, List.forall_mem_cons, ih (Nat.succ.inj sizes),
        UInt8.xor_eq_zero_iff, List.cons.injEq]

theorem padded_length (bytes : List UInt8) : padded bytes.length bytes = bytes := by
  simp [padded]

-- Padding lets no key pass for another: the lengths are compared as well.
theorem keysMatch_iff (provided expected : String) :
    keysMatch provided expected = true ↔ provided = expected := by
  unfold keysMatch
  simp only [Bool.and_eq_true, beq_iff_eq, foldl_or_eq_zero_iff]
  constructor
  · rintro ⟨⟨_, zero⟩, sizes⟩
    rw [sizes, Nat.max_self, padded_length, ← sizes, padded_length,
      zipWith_xor_zero_iff sizes, Digest.byteList_eq, Digest.byteList_eq] at zero
    exact String.toByteArray_inj.mp (ByteArray.ext (Array.toList_inj.mp zero))
  · rintro rfl
    exact ⟨⟨trivial, (zipWith_xor_zero_iff rfl).mpr rfl⟩, rfl⟩

theorem providedKey_eq {header key : String} (provided : providedKey header = key) :
    header = key ∨ header = bearer ++ key := by
  unfold providedKey at provided
  split at provided
  · next starts =>
    obtain ⟨rest, split⟩ := List.isPrefixOf_iff_prefix.mp starts
    have size : bearer.length = bearer.toList.length := rfl
    rw [← split, size, List.drop_left] at provided
    subst provided
    refine .inr (String.toList_inj.mp ?_)
    rw [String.toList_append, String.toList_ofList, split]
  · exact .inl provided

def Keyless (key : String) (request : Request) : Prop :=
  request.header? "authorization" ≠ some key ∧
    request.header? "authorization" ≠ some (bearer ++ key)

theorem Keyless.carriesKey {key : String} {request : Request} (keyless : Keyless key request) :
    carriesKey key request = false := by
  unfold Http.carriesKey
  split
  · next header shown =>
    have given := (Option.filter_eq_some_iff.mp shown).1
    rw [Bool.eq_false_iff]
    intro same
    rcases providedKey_eq ((keysMatch_iff _ _).mp same) with bare | marked
    · exact keyless.1 (given.trans (congrArg some bare))
    · exact keyless.2 (given.trans (congrArg some marked))
  · cbv

-- Refused for want of a key or of a permit, unless nobody has to show a key.
def Barred (request : Request) (response : Response) : Prop :=
  request.method = .options ∨ request.path = healthPath ∨
    response.status = .unauthorized ∨ response.status = .tooManyRequests

theorem status_complete (request : Request) (response : Response) :
    (complete request response).status = response.status := by
  have bodiless (response : Response) : response.withoutBody.status = response.status := by
    unfold Response.withoutBody
    split <;> rfl
  have listing (route : Route) :
      (listMethods route request.method response).status = response.status := by
    unfold listMethods
    split <;> rfl
  unfold complete
  split
  · dsimp only
    split
    · rw [bodiless, listing]
    · exact listing _
  · split
    · exact bodiless response
    · rfl

theorem dispatch_health {request : Request} (health : request.path = healthPath)
    (search : SearchConfig) :
    ∃ response, ∀ state, dispatch search request state = (response, state) := by
  have route : Route.ofPath? request.path = some .health := by
    rw [health]
    rfl
  unfold dispatch
  rw [route]
  dsimp only
  split
  · exact ⟨_, fun state => rfl⟩
  · exact ⟨_, fun state => rfl⟩

theorem keyLayer_keyless {key : String} {request : Request} (keyless : Keyless key request)
    (search : SearchConfig) :
    ∃ response, (∀ state, keyLayer (some key) (dispatch search) request state = (response, state)) ∧
      (request.path = healthPath ∨ response.status = .unauthorized) := by
  unfold keyLayer authorized
  simp only [keyless.carriesKey, Bool.or_false, beq_iff_eq]
  by_cases health : request.path = healthPath
  · obtain ⟨response, answers⟩ := dispatch_health health search
    exact ⟨response, fun state => (if_pos health).trans (answers state), .inl health⟩
  · exact ⟨_, fun state => if_neg health, .inr rfl⟩

theorem limitLayer_keyless {key : String} {request : Request} (keyless : Keyless key request)
    (search : SearchConfig) (permits : Option Nat) :
    ∃ response left, (∀ session, limitLayer (keyLayer (some key) (dispatch search)) request
        ⟨session, permits⟩ = (response, ⟨session, left⟩)) ∧
      (request.path = healthPath ∨ response.status = .unauthorized ∨
        response.status = .tooManyRequests) := by
  obtain ⟨response, answers, status⟩ := keyLayer_keyless keyless search
  unfold limitLayer
  cases permits with
  | none => exact ⟨response, none, fun session => answers _, status.imp_right .inl⟩
  | some permits =>
    cases permits with
    | zero => exact ⟨_, some 0, fun session => rfl, .inr (.inr rfl)⟩
    | succ left => exact ⟨response, some left, fun session => answers _, status.imp_right .inl⟩

namespace Service

variable {service : Service} {key : String}

theorem respond_keyless (locked : service.key = some key) {request : Request}
    (keyless : Keyless key request) (permits : Option Nat) :
    ∃ response left, (∀ session, service.respond request ⟨session, permits⟩ =
        (response, ⟨session, left⟩)) ∧ Barred request response := by
  obtain ⟨response, left, answers, status⟩ := limitLayer_keyless keyless service.search permits
  unfold respond layers originLayer Barred
  rw [locked]
  by_cases preflight : request.method = .options
  · simp only [if_pos preflight]
    exact ⟨_, permits, fun session => rfl, .inl preflight⟩
  · simp only [if_neg preflight, answers]
    refine ⟨_, left, fun session => rfl, .inr ?_⟩
    rw [status_complete]
    exact status

theorem respondAll_keyless (locked : service.key = some key) {requests : List Request}
    (keyless : ∀ request ∈ requests, Keyless key request) (permits : Option Nat) :
    ∃ responses left, (∀ session, service.respondAll ⟨session, permits⟩ requests =
        (responses, ⟨session, left⟩)) ∧ List.Forall₂ Barred requests responses := by
  induction requests generalizing permits with
  | nil => exact ⟨[], permits, fun session => rfl, .nil⟩
  | cons request rest ih =>
    obtain ⟨first, ours⟩ := List.forall_mem_cons.mp keyless
    obtain ⟨response, middle, answers, barred⟩ := respond_keyless locked first permits
    obtain ⟨responses, left, follow, others⟩ := ih ours middle
    refine ⟨response :: responses, left, fun session => ?_, .cons barred others⟩
    unfold respondAll
    rw [answers]
    dsimp only
    rw [follow]

end Service

theorem Service.key_ofConfig {key : String} (real : key ≠ "") (config : Config) :
    (Service.ofConfig config (some key)).key = some key := by
  simp [Service.ofConfig, keyOfSetting, real]

-- Whatever session stands behind the server, the responses are the same, and it stays as it is.
theorem keyless_learn_nothing {key : String} (real : key ≠ "") (config : Config)
    {requests : List Request}
    (keyless : ∀ request ∈ requests, request.header? "authorization" ≠ some key ∧
      request.header? "authorization" ≠ some (bearer ++ key)) :
    ∃ responses left, List.Forall₂ Barred requests responses ∧
      ∀ session : Session, (Service.ofConfig config (some key)).respondAll
        (.ofConfig config session) requests = (responses, ⟨session, left⟩) := by
  have locked := Service.key_ofConfig real config
  obtain ⟨responses, left, answers, barred⟩ :=
    Service.respondAll_keyless locked keyless (permitsOf config.server.rateLimit)
  exact ⟨responses, left, barred, fun session => answers session⟩

-- A part of the key, the key in capitals, the key with something after it and no key at all.
def strangers : List Request :=
  [{ target := "/hash", headers := [("authorization", "Bearer secre")] },
    { method := .post, target := "/search", headers := [("Authorization", "SECRET")] },
    { target := "/health", headers := [("authorization", "Bearer secret0")] },
    { method := .options, target := "/weights" },
    { target := "/status" }]

def threeASecond : Config :=
  { server := { rateLimit := 3 } }

theorem nothing_learned_by_strangers :
    "secret" ≠ "" ∧
      (∀ request ∈ strangers, request.header? "authorization" ≠ some "secret" ∧
        request.header? "authorization" ≠ some (bearer ++ "secret")) ∧
      ∃ responses left, List.Forall₂ Barred strangers responses ∧
        ∀ session : Session, (Service.ofConfig threeASecond (some "secret")).respondAll
          (.ofConfig threeASecond session) strangers = (responses, ⟨session, left⟩) := by
  have real : "secret" ≠ "" := by decide
  have keyless : ∀ request ∈ strangers, request.header? "authorization" ≠ some "secret" ∧
      request.header? "authorization" ≠ some (bearer ++ "secret") := by decide +kernel
  exact ⟨real, keyless, keyless_learn_nothing real threeASecond keyless⟩

end SiteSearch.Http
