import SiteSearch.Proofs.Http.Passage
import SiteSearch.Proofs.Text.Written

-- Which origin a browser is told that it may read for. Every answer of a server says it once or not
-- at all, whatever the layers behind the origin rules make of the request; and what it says depends
-- on the setting and on the origin that the request names, on nothing else.
namespace SiteSearch.Http

-- A text whose bytes may stand in a header.
def IsHeaderValue (text : String) : Prop :=
  ∀ byte ∈ text.toUTF8.toList, (32 ≤ byte.toNat ∧ byte.toNat ≠ 127) ∨ byte.toNat = 9

-- The rule on characters is the rule on bytes: beyond ASCII every byte is a large one.
theorem isHeaderText_iff (text : String) : isHeaderText text = true ↔ IsHeaderValue text := by
  have each (c : Char) :
      ((decide (c.toNat ≥ 32) && decide (c.toNat ≠ 127)) || decide (c = '\t')) = true ↔
        ∀ byte ∈ String.utf8EncodeChar c,
          (32 ≤ byte.toNat ∧ byte.toNat ≠ 127) ∨ byte.toNat = 9 := by
    have tab : c = '\t' ↔ c.toNat = 9 := by
      constructor
      · rintro rfl
        rfl
      · exact fun same => Char.toNat_inj.mp same
    simp only [Bool.or_eq_true, Bool.and_eq_true, decide_eq_true_eq, tab]
    by_cases small : c.toNat < 0x80
    · rw [Text.utf8EncodeChar_ascii small, List.forall_mem_singleton,
        Digest.toNat_byte (by omega)]
    · constructor
      · intro _ byte member
        have large := Text.utf8EncodeChar_beyond (c := c) (by omega) byte member
        omega
      · intro _
        omega
  unfold isHeaderText IsHeaderValue
  rw [Text.toUTF8_toList, List.all_eq_true]
  simp only [List.mem_flatMap, each]
  constructor
  · rintro all byte ⟨c, listed, member⟩
    exact all c listed byte member
  · intro all c listed byte member
    exact all byte ⟨c, listed, member⟩

namespace OriginPolicy

theorem local?_eq : local? = some (.listed localOrigins) := by
  decide

theorem started?_eq (setting : Option (List String)) :
    started? setting = some (ofSetting setting) := by
  cases setting with
  | none => exact local?_eq
  | some origins =>
    unfold started? ofSetting
    dsimp only
    by_cases star : origins.contains "*" = true
    · rw [if_pos star, if_pos star]
    · rw [if_neg star, if_neg star]
      have starless : (origins.filter isHeaderText).contains "*" = false := by
        rw [List.contains_iff_mem] at star
        simp [star]
      cases usable : origins.filter isHeaderText with
      | nil => exact local?_eq
      | cons first rest =>
        rw [usable] at starless
        rw [if_neg (by simp)]
        unfold explicit?
        rw [starless]
        rfl

end OriginPolicy

def originHeader : String := "access-control-allow-origin"

-- The origins that a response tells a browser.
def Response.allowed (response : Response) : List String :=
  (response.headers.filter (·.1 = originHeader)).map (·.2)

-- The origins that a setting without a star admits by name.
inductive Admits (setting : Option (List String)) (origin : String) : Prop where
  | listed {origins : List String} (given : setting = some origins) (entry : origin ∈ origins)
      (valid : IsHeaderValue origin) : Admits setting origin
  | builtIn (vacant : ∀ origins, setting = some origins → ∀ entry ∈ origins, ¬ IsHeaderValue entry)
      (isLocal : origin ∈ localOrigins) : Admits setting origin

theorem Admits.among {origins : List String} {origin : String}
    (admits : Admits (some origins) origin) (filled : origins ≠ [])
    (usable : ∀ entry ∈ origins, IsHeaderValue entry) : origin ∈ origins := by
  rcases admits with ⟨given, listed, _⟩ | ⟨vacant, _⟩
  · cases given
    exact listed
  · obtain ⟨entry, listed⟩ := List.exists_mem_of_ne_nil origins filled
    exact absurd (usable entry listed) (vacant origins rfl entry listed)

namespace OriginPolicy

theorem ofSetting_star {origins : List String} (star : "*" ∈ origins) :
    ofSetting (some origins) = .anywhere := by
  unfold ofSetting
  exact if_pos (List.contains_iff_mem.mpr star)

theorem ofSetting_starless {setting : Option (List String)}
    (starless : ∀ origins, setting = some origins → "*" ∉ origins) :
    ∃ admitted, ofSetting setting = .listed admitted ∧
      ∀ origin, origin ∈ admitted ↔ Admits setting origin := by
  cases setting with
  | none =>
    refine ⟨localOrigins, rfl, fun origin => ⟨fun isLocal => .builtIn nofun isLocal, ?_⟩⟩
    rintro (⟨given, _, _⟩ | ⟨_, isLocal⟩)
    · cases given
    · exact isLocal
  | some origins =>
    have absent : ¬ origins.contains "*" = true := by
      rw [List.contains_iff_mem]
      exact starless origins rfl
    unfold ofSetting
    dsimp only
    rw [if_neg absent]
    cases usable : origins.filter isHeaderText with
    | nil =>
      have vacant : ∀ entry ∈ origins, ¬ IsHeaderValue entry := by
        intro entry listed valid
        have kept := List.mem_filter.mpr ⟨listed, (isHeaderText_iff entry).mpr valid⟩
        rw [usable] at kept
        cases kept
      refine ⟨localOrigins, rfl, fun origin => ⟨fun isLocal => .builtIn ?_ isLocal, ?_⟩⟩
      · rintro _ ⟨⟩
        exact vacant
      · rintro (⟨given, entry, valid⟩ | ⟨_, isLocal⟩)
        · cases given
          exact absurd valid (vacant origin entry)
        · exact isLocal
    | cons first rest =>
      refine ⟨first :: rest, rfl, fun origin => ?_⟩
      rw [← usable, List.mem_filter, isHeaderText_iff]
      constructor
      · rintro ⟨entry, valid⟩
        exact .listed rfl entry valid
      · rintro (⟨given, entry, valid⟩ | ⟨vacant, _⟩)
        · cases given
          exact ⟨entry, valid⟩
        · have kept : first ∈ origins.filter isHeaderText := by
            rw [usable]
            exact List.mem_cons_self
          obtain ⟨listed, valid⟩ := List.mem_filter.mp kept
          exact absurd ((isHeaderText_iff first).mp valid) (vacant origins rfl first listed)

-- Without a star an origin is told if it is admitted, and else nothing is.
theorem told_starless {setting : Option (List String)}
    (starless : ∀ origins, setting = some origins → "*" ∉ origins) (named? : Option String) :
    (∀ origin, named? = some origin → Admits setting origin →
      ((ofSetting setting).allowed? named?).toList = [origin]) ∧
    ((∀ origin, named? = some origin → ¬ Admits setting origin) →
      ((ofSetting setting).allowed? named?).toList = []) := by
  obtain ⟨admitted, policy, admits⟩ := ofSetting_starless starless
  rw [policy]
  constructor
  · rintro origin rfl admitting
    have listed := List.contains_iff_mem.mpr ((admits origin).mpr admitting)
    rw [allowed?, Option.filter_some, if_pos listed]
    rfl
  · intro unknown
    have dropped : named?.filter admitted.contains = none := by
      rw [Option.filter_eq_none_iff]
      intro origin named listed
      exact unknown origin named ((admits origin).mp (List.contains_iff_mem.mp listed))
    rw [allowed?, dropped]
    rfl

end OriginPolicy

theorem allowed_complete (request : Request) (response : Response) :
    (complete request response).allowed = response.allowed := by
  have bodiless (response : Response) : response.withoutBody.allowed = response.allowed := by
    unfold Response.withoutBody
    split <;> rfl
  have methods (route : Route) :
      (listMethods route request.method response).allowed = response.allowed := by
    unfold listMethods
    split
    · rfl
    · unfold Response.withHeader Response.allowed
      rw [List.filter_append, List.map_append]
      exact List.append_nil _
  unfold complete
  split
  · next route _ =>
    dsimp only
    split
    · rw [bodiless, methods]
    · exact methods route
  · split
    · exact bodiless response
    · rfl

theorem allowed_allowedHeader (policy : OriginPolicy) (request : Request) :
    ((policy.allowedHeader request).filter (·.1 = originHeader)).map (·.2) =
      (policy.allowed? (request.header? "origin")).toList := by
  unfold OriginPolicy.allowedHeader
  cases policy.allowed? (request.header? "origin") <;> rfl

theorem allowed_answer (search : SearchConfig) (route : Route) (request : Request)
    (state : State) : (route.answer search request state).1.allowed = [] := by
  have replied (query : String) (answer : Except SearchError Outcome) :
      (searchReply query answer).allowed = [] := by
    cases answer <;> rfl
  have asks (asked : Except Status Wire.SearchRequest) :
      (answerSearch search asked state).1.allowed = [] := by
    cases asked with
    | error status => rfl
    | ok asked => exact replied asked.query _
  cases route with
  | search => exact asks _
  | searchFor segment => exact asks _
  | _ => rfl

theorem allowed_dispatch (search : SearchConfig) (request : Request) (state : State) :
    (dispatch search request state).1.allowed = [] := by
  unfold dispatch
  split
  · rfl
  · next route _ =>
    split
    · exact allowed_answer search route request state
    · rfl

namespace Service

variable (service : Service) (request : Request)

theorem allowed_preflight :
    (service.preflight request).allowed =
      (service.origins.allowed? (request.header? "origin")).toList := by
  unfold preflight
  rw [allowed_complete, ← allowed_allowedHeader]
  unfold Response.allowed
  rw [List.filter_append, List.map_append]
  cases service.origins <;> exact List.append_nil _

theorem allowed_wrap {response : Response} (silent : response.allowed = []) :
    (service.wrap request response).allowed =
      (service.origins.allowed? (request.header? "origin")).toList := by
  unfold wrap
  rw [allowed_complete, ← allowed_allowedHeader]
  unfold Response.allowed at silent ⊢
  rw [List.filter_append, List.map_append, silent, List.nil_append]

-- Preflight or not, let in or turned away: the origin rules alone speak of origins.
theorem allowed_respond (state : State) :
    (service.respond request state).1.allowed =
      (service.origins.allowed? (request.header? "origin")).toList := by
  rw [respond_eq_around]
  by_cases preflight : request.method = .options
  · rw [service.around_preflight _ preflight]
    exact service.allowed_preflight request
  · by_cases spent : state.permits = some 0
    · rw [service.around_limited _ preflight spent]
      exact service.allowed_wrap request rfl
    · cases known : authorized service.key request with
      | false =>
        rw [service.around_barred _ preflight spent known]
        exact service.allowed_wrap request rfl
      | true =>
        rw [service.around_passed _ preflight spent known]
        exact service.allowed_wrap request (allowed_dispatch service.search request _)

end Service

-- Whatever the list of origins holds, a server starts, and each of its answers names the star, the
-- origin of the request or none: the star if the list has it, else the origin if it is admitted by
-- name. A list of usable origins admits no other, not even those of the local machine.
theorem origins_are_told_as_set (config : Config) (overriding rate key : Option String)
    (request : Request) (state : State) :
    let configured := config.withOverrides overriding rate
    let setting := configured.server.corsOrigins
    let told := ((Service.ofConfig configured key).respond request state).1.allowed
    OriginPolicy.started? setting = some (Service.ofConfig configured key).origins ∧
    (∀ origins, setting = some origins → "*" ∈ origins → told = ["*"]) ∧
    ((∀ origins, setting = some origins → "*" ∉ origins) →
      (∀ origin, request.header? "origin" = some origin → Admits setting origin →
        told = [origin]) ∧
      ((∀ origin, request.header? "origin" = some origin → ¬ Admits setting origin) →
        told = [])) ∧
    (∀ origins, setting = some origins → origins ≠ [] →
      (∀ entry ∈ origins, IsHeaderValue entry ∧ entry ≠ "*") →
      ∀ origin ∈ told, origin ∈ origins ∧ request.header? "origin" = some origin) := by
  intro configured setting told
  have said : told =
      ((OriginPolicy.ofSetting setting).allowed? (request.header? "origin")).toList :=
    Service.allowed_respond (Service.ofConfig configured key) request state
  refine ⟨OriginPolicy.started?_eq setting, ?_, ?_, ?_⟩
  · intro origins given star
    rw [said, given, OriginPolicy.ofSetting_star star]
    rfl
  · intro clean
    rw [said]
    exact OriginPolicy.told_starless clean (request.header? "origin")
  · intro origins given filled usable origin spoken
    have clean (others : List String) (same : some origins = some others) : "*" ∉ others := by
      cases same
      exact fun star => (usable "*" star).2 rfl
    rw [said, given] at spoken
    obtain ⟨found, silent⟩ := OriginPolicy.told_starless clean (request.header? "origin")
    by_cases known : ∃ named, request.header? "origin" = some named ∧ Admits (some origins) named
    · obtain ⟨named, header, admitting⟩ := known
      rw [found named header admitting] at spoken
      obtain rfl := List.mem_singleton.mp spoken
      exact ⟨admitting.among filled fun entry listed => (usable entry listed).1, header⟩
    · rw [silent fun named header admitting => known ⟨named, header, admitting⟩] at spoken
      cases spoken

-- A padded list in the environment: its second origin is told, that of the local machine is not.
theorem origins_are_told_of_twoSites :
    let configured := Config.withOverrides {} (some " http://a.example ,, http://b.example ") none
    let told (origin : String) (state : State) :=
      ((Service.ofConfig configured none).respond
        { target := "/status", headers := [("Origin", origin)] } state).1.allowed
    OriginPolicy.started? configured.server.corsOrigins =
        some (.listed ["http://a.example", "http://b.example"]) ∧
      ∀ state, told "http://b.example" state = ["http://b.example"] ∧
        told "http://localhost:3000" state = [] := by
  intro configured told
  have given : configured.server.corsOrigins = some ["http://a.example", "http://b.example"] := by
    decide +kernel
  have clean (origins : List String) (same : configured.server.corsOrigins = some origins) :
      "*" ∉ origins := by
    rw [given] at same
    cases same
    decide
  have usable : IsHeaderValue "http://b.example" := by
    rw [← isHeaderText_iff]
    decide
  have answered (origin : String) (state : State) :=
    (origins_are_told_as_set {} (some " http://a.example ,, http://b.example ") none none
      { target := "/status", headers := [("Origin", origin)] } state).2.2.1 clean
  have header (origin : String) :
      Request.header? { target := "/status", headers := [("Origin", origin)] } "origin" =
        some origin := by
    have named : ("Origin".toLower == "origin") = true := by
      decide +kernel
    simp [Request.header?, named]
  refine ⟨by rw [given]; decide, fun state => ⟨?_, ?_⟩⟩
  · apply (answered "http://b.example" state).1 _ (header _)
    exact .listed given (by decide) usable
  · apply (answered "http://localhost:3000" state).2
    intro origin spoken admits
    obtain rfl : "http://localhost:3000" = origin := Option.some.inj ((header _).symm.trans spoken)
    rcases admits with ⟨same, entry, _⟩ | ⟨vacant, _⟩
    · rw [given] at same
      cases same
      exact absurd entry (by decide)
    · exact vacant _ given "http://b.example" (by decide) usable

end SiteSearch.Http
