import SiteSearch.Proofs.Http.Passage

-- Requests that show the key, behind the scheme or by itself. Once it is recognised, the request is
-- answered as if no key were asked for. It is not recognised where the header cannot be read as text,
-- or where a key by itself is taken for a scheme with another key behind it.
namespace SiteSearch.Http

theorem isPlainText_append (front back : String) :
    isPlainText (front ++ back) = (isPlainText front && isPlainText back) := by
  simp [isPlainText]

@[simp] theorem providedKey_marked (key : String) : providedKey (bearer ++ key) = key := by
  have size : bearer.length = bearer.toList.length := rfl
  unfold providedKey
  rw [String.toList_append, if_pos (List.isPrefixOf_iff_prefix.mpr (List.prefix_append _ _)), size,
    List.drop_left, String.ofList_toList]

theorem providedKey_bare_iff (key : String) :
    providedKey key = key ↔ ¬ bearer.toList <+: key.toList := by
  unfold providedKey
  split
  · next starts =>
    have marked := List.isPrefixOf_iff_prefix.mp starts
    refine iff_of_false (fun same => ?_) (not_not_intro marked)
    -- what follows the scheme is shorter than the whole
    have sizes := congrArg (fun text : String => text.toList.length) same
    have room := marked.length_le
    have scheme : bearer.length = 7 ∧ bearer.toList.length = 7 := ⟨rfl, rfl⟩
    simp only [String.toList_ofList, List.length_drop] at sizes
    omega
  · next other => exact iff_of_true rfl (mt List.isPrefixOf_iff_prefix.mpr other)

theorem carriesKey_shown_iff {request : Request} {header : String}
    (shown : request.header? "authorization" = some header) (key : String) :
    carriesKey key request = true ↔ isPlainText header = true ∧ providedKey header = key := by
  unfold carriesKey
  rw [shown]
  cases plain : isPlainText header with
  | false => simp [Option.filter, plain]
  | true => simp [Option.filter, plain, keysMatch_iff]

-- Whether a key is recognised in a header that shows it.
def Recognised (key header : String) : Prop :=
  isPlainText key = true ∧ (header = key → ¬ bearer.toList <+: key.toList)

section Shown

variable {key header : String} {request : Request}
  (shown : request.header? "authorization" = some header)
  (form : header = bearer ++ key ∨ header = key)

include shown form

theorem carriesKey_iff_recognised : carriesKey key request = true ↔ Recognised key header := by
  rw [carriesKey_shown_iff shown]
  unfold Recognised
  rcases form with rfl | rfl
  · have scheme : isPlainText bearer = true := rfl
    have longer : bearer ++ key ≠ key := by
      intro same
      have sizes := congrArg (fun text : String => text.toList.length) same
      simp only [String.toList_append, List.length_append] at sizes
      have scheme : bearer.toList.length = 7 := rfl
      omega
    simp [isPlainText_append, scheme, longer]
  · simp [providedKey_bare_iff]

theorem authorized_iff_recognised :
    authorized (some key) request = true ↔
      request.path = healthPath ∨ Recognised key header := by
  unfold authorized
  simp only [Bool.or_eq_true, beq_iff_eq, carriesKey_iff_recognised shown form]

end Shown

theorem limitLayer_congr {inner other : Handler} {request : Request}
    (same : inner request = other request) :
    limitLayer inner request = limitLayer other request := by
  funext state
  unfold limitLayer
  rw [same]

namespace Service

variable {service : Service} {request : Request}

-- A request that may pass is answered as by the service without a key.
theorem respond_passed (known : authorized service.key request = true) :
    service.respond request = { service with key := none }.respond request := by
  have passed : keyLayer service.key (dispatch service.search) request =
      keyLayer none (dispatch service.search) request := by
    funext state
    unfold keyLayer
    rw [known]
    rfl
  funext state
  unfold respond layers originLayer
  simp only [limitLayer_congr passed]

theorem respond_barred (plain : request.method ≠ .options)
    (barred : authorized service.key request = false) (session : Session) :
    (service.respond request ⟨session, none⟩).1.status = .unauthorized := by
  have within : (⟨session, none⟩ : State).permits ≠ some 0 :=
    (Option.some_ne_none 0).symm
  rw [respond_eq_around, service.around_barred _ plain within barred]
  exact service.status_wrap request _

end Service

-- A request with the key in either form is answered as by a service that asks for no key, wherever
-- the key is recognised, and only there or on the way to the health route.
theorem shown_keys_open_the_service {key : String} (real : key ≠ "") {request : Request}
    {header : String} (shown : request.header? "authorization" = some header)
    (form : header = bearer ++ key ∨ header = key) (config : Config) :
    (request.path = healthPath ∨ Recognised key header →
      authorized (some key) request = true ∧
        ∀ state, (Service.ofConfig config (some key)).respond request state =
          (Service.ofConfig config none).respond request state) ∧
    (¬ (request.path = healthPath ∨ Recognised key header) → request.method ≠ .options →
      ∀ session, ((Service.ofConfig config (some key)).respond request ⟨session, none⟩).1.status =
        .unauthorized) := by
  have locked := Service.key_ofConfig real config
  rw [← authorized_iff_recognised shown form]
  constructor
  · intro known
    refine ⟨known, fun state => ?_⟩
    rw [← locked] at known
    rw [Service.respond_passed known]
    rfl
  · intro barred plain
    apply Service.respond_barred plain
    rw [locked]
    exact Bool.eq_false_iff.mpr barred

-- The name of the scheme as a key: without the space behind it, it is not taken for the scheme.
def schemeAsKey : Request :=
  { method := .post, target := "/search", headers := [("Authorization", "Bearer")] }

theorem schemeAsKey_opens_the_service :
    "Bearer" ≠ "" ∧ schemeAsKey.header? "authorization" = some "Bearer" ∧
      Recognised "Bearer" "Bearer" ∧
      ∀ state, (Service.ofConfig {} (some "Bearer")).respond schemeAsKey state =
        (Service.ofConfig {} none).respond schemeAsKey state := by
  have real : "Bearer" ≠ "" := by decide
  have shown : schemeAsKey.header? "authorization" = some "Bearer" := by decide +kernel
  have known : Recognised "Bearer" "Bearer" := ⟨by decide +kernel, fun _ => by decide⟩
  have opened := (shown_keys_open_the_service real shown (.inr rfl) {}).1 (.inr known)
  exact ⟨real, shown, known, opened.2⟩

-- What comes of asking for the status of an empty store with a header.
def statusWith (key : Option String) (header : String) : Status :=
  ((Service.ofConfig { server := { rateLimit := 0 } } key).respond
    { target := "/status", headers := [("authorization", header)] }
    ⟨.ofStore .empty, none⟩).1.status

-- A key by itself that starts like the scheme, and a key beyond ASCII behind the scheme.
theorem shown_keys_are_refused :
    ("Bearer x" ≠ "" ∧ isHeaderText "Bearer x" = true ∧
      statusWith (some "Bearer x") "Bearer x" = .unauthorized ∧
      statusWith none "Bearer x" = .ok) ∧
    ("schlüssel" ≠ "" ∧ isHeaderText "schlüssel" = true ∧
      statusWith (some "schlüssel") (bearer ++ "schlüssel") = .unauthorized ∧
      statusWith none (bearer ++ "schlüssel") = .ok) := by
  constructor <;> decide +kernel

end SiteSearch.Http
