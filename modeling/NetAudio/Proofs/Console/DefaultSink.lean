import NetAudio.Proofs.Client.Paths
import NetAudio.Proofs.Service.Routes
import NetAudio.Proofs.Text.Percent
import NetAudio.Proofs.Url.Extension
import NetAudio.Form.StreamChecks

/-!
# Default sinks of a console

A new sink points at the source of the same id, below the base URL of the daemon.  Settings are accepted
if the base URL is a URL by itself; the sink is valid exactly if it is one with a slash behind it.  The two
differ where the base URL ends in characters that do not count there: these are kept, and count as soon as
the path follows.
-/

set_option autoImplicit false

namespace NetAudio

/-! ## Slashes at the end -/

theorem trimSlashes_withSlashes (text : String) (count : Nat) :
    trimSlashes (withSlashes text count) = trimSlashes text := by
  have dropped : (List.replicate count '/' ++ text.toList.reverse).dropWhile (· == '/') =
      text.toList.reverse.dropWhile (· == '/') := by
    induction count with
    | zero => rfl
    | succ count ih =>
        rw [List.replicate_succ, List.cons_append, List.dropWhile_cons_of_pos (by rfl)]
        exact ih
  unfold trimSlashes withSlashes
  rw [String.toList_append, String.toList_ofList, List.reverse_append, List.reverse_replicate, dropped]

theorem exists_withSlashes (text : String) : ∃ count, text = withSlashes (trimSlashes text) count := by
  have only : ∀ c ∈ text.toList.reverse.takeWhile (· == '/'), c = '/' := by
    intro c member
    exact eq_of_beq (List.mem_takeWhile_imp (p := (· == '/')) member)
  have divided := congrArg List.reverse
    (List.takeWhile_append_dropWhile (p := (· == '/')) (l := text.toList.reverse))
  rw [List.eq_replicate_of_mem only, List.reverse_append, List.reverse_reverse,
    List.reverse_replicate] at divided
  refine ⟨(text.toList.reverse.takeWhile (· == '/')).length, ?_⟩
  rw [← String.toList_inj, withSlashes, trimSlashes, String.toList_append, String.toList_ofList,
    String.toList_ofList]
  exact divided.symm

namespace SinkDraft

theorem withDefaults_withSlashes (id : UInt8) (text : String) (count : Nat) :
    withDefaults id (withSlashes text count) = withDefaults id text := by
  unfold withDefaults ownSdpUrl
  rw [trimSlashes_withSlashes]

/-- A default sink can only be wrong in its id and its URL. -/
theorem withDefaults_valid_iff {id : UInt8} (managed : id.toNat ≤ 63) (baseUrl : String) :
    (withDefaults id baseUrl).validate.isValid = true ↔
      Url.isAbsolute (ownSdpUrl baseUrl id) = true := by
  have named : (withDefaults id baseUrl).name ≠ "" := by simp [withDefaults]
  have given : (ownSdpUrl baseUrl id).isEmpty = false := by simp [ownSdpUrl]
  have described : (withDefaults id baseUrl).checkDescription.2 =
      Issue.unlessFormed (Url.isAbsolute (ownSdpUrl baseUrl id)) := by
    simp [checkDescription, withDefaults, given]
  rw [Validation.isValid_iff]
  simp only [validate, List.forall_mem_cons, checkId, checkName, described, Issue.unlessIn_eq_none,
    Issue.unlessGiven_eq_none, Issue.unlessFormed_eq_none, Issue.unlessOffered_eq_none]
  constructor
  · rintro ⟨-, -, formed, -⟩
    exact formed
  · intro formed
    exact ⟨⟨Nat.zero_le _, managed⟩, named, formed, rfl, by simp⟩

theorem isAbsolute_ownSdpUrl_iff {baseUrl : String} (accepted : Url.isAbsolute baseUrl = true)
    (id : UInt8) :
    Url.isAbsolute (ownSdpUrl baseUrl id) = true ↔ Url.isAbsolute (baseUrl ++ "/") = true := by
  obtain ⟨count, whole⟩ := exists_withSlashes baseUrl
  have own : ownSdpUrl baseUrl id =
      trimSlashes baseUrl ++ "/" ++ ("api/source/sdp/" ++ id.toNat.repr) := by
    rw [ownSdpUrl, String.append_assoc]
    rfl
  have path : Url.Extension ("api/source/sdp/" ++ id.toNat.repr).toList := by
    have plain : Url.Plain ("source/sdp/" ++ id.toNat.repr).toList := plain_of_stem id (by decide)
    rw [String.toList_append] at plain ⊢
    exact .below _ plain
  generalize trimSlashes baseUrl = front at whole own
  rw [whole] at accepted
  rw [own, Url.isAbsolute_withSlashes_iff accepted path, ← whole]

end SinkDraft

namespace Service

theorem streamId_repr {id : UInt8} (managed : id.toNat ≤ 63) :
    streamId id.toNat.repr.toList = .ok id := by
  have ascii : ∀ c ∈ id.toNat.repr.toList, c.toNat ≤ 0x7F ∧ c ≠ '%' := by
    intro c member
    have plain := plain_id id c member
    have bound := Url.toNat_of_isPlain plain
    constructor
    · omega
    · rintro rfl
      exact absurd plain (by decide)
  have bound : id.toNat ≤ UInt8.size - 1 := Nat.le_pred_of_lt id.toNat_lt
  have listed : ¬ maxStreams ≤ id.toNat := by
    rw [maxStreams]
    omega
  simp only [streamId, Percent.decode?_decode ascii, String.ofList_toList, Option.map_some,
    Decimal.readU8, Decimal.read_repr bound, Except.map, UInt8.ofNat_toNat, if_neg listed]
  rfl

theorem respond_defaultSink (console : Console) {request : Http.Request}
    (asked : request.method = "GET") {id : UInt8} (managed : id.toNat ≤ 63)
    (path : request.target.path = ("/api/calc/sink/default/" ++ id.toNat.repr).toList) :
    console.respond request =
      (Reply.data (Json.toJson (SinkDraft.withDefaults id console.state.daemonUrl))).response := by
  have named : (Endpoint.defaultSink id.toNat.repr.toList).IsNamed :=
    ⟨by simp, slash_not_mem_id id⟩
  have sent : request.target.path = (Endpoint.defaultSink id.toNat.repr.toList).path := by
    rw [path, String.toList_append]
    rfl
  rw [Endpoint.respond_eq console named sent asked, Endpoint.respond, Endpoint.reply,
    streamId_repr managed]
  rfl

end Service

/-! ## Accepted settings -/

theorem ConsoleSettings.isAbsolute_of_check {settings : ConsoleSettings}
    (accepted : settings.check = .ok ()) : Url.isAbsolute settings.daemon.baseUrl = true := by
  by_contra other
  unfold check at accepted
  rw [Bool.not_eq_true] at other
  simp only [other, Bool.not_false, if_true] at accepted
  cases accepted

structure ServesDefaultSink (settings : ConsoleSettings) (id : UInt8) : Prop where
  /-- The base URL must be one with a slash behind it. -/
  valid : (SinkDraft.withDefaults id settings.daemon.baseUrl).validate.isValid = true ↔
    Url.isAbsolute (settings.daemon.baseUrl ++ "/") = true
  /-- Where all of the base URL counts, it is, unless an empty user stands for its host. -/
  ended : ∀ url, Url.ofText? settings.daemon.baseUrl = some url →
    (∀ c, settings.daemon.baseUrl.toList.getLast? = some c → 0x20 < c.toNat) →
      ((SinkDraft.withDefaults id settings.daemon.baseUrl).validate.isValid = true ↔
        url.authority ≠ some Url.loneUser)
  served : ∀ (console : Service.Console) (request : Http.Request),
    console.state.daemonUrl = (Service.State.ofSettings settings).daemonUrl →
    request.method = "GET" →
    request.target.path = ("/api/calc/sink/default/" ++ id.toNat.repr).toList →
      console.respond request = (Service.Reply.data
        (Json.toJson (SinkDraft.withDefaults id settings.daemon.baseUrl))).response
  trimmed : ∀ count, SinkDraft.withDefaults id (withSlashes settings.daemon.baseUrl count) =
    SinkDraft.withDefaults id settings.daemon.baseUrl

/-- The default sinks of accepted settings are valid exactly if the base URL can go on with a path. -/
theorem accepted_settings_serve_default_sinks (settings : ConsoleSettings)
    (accepted : settings.check = .ok ()) (id : UInt8) (managed : id.toNat ≤ 63) :
    ServesDefaultSink settings id := by
  have absolute := settings.isAbsolute_of_check accepted
  have valid := (SinkDraft.withDefaults_valid_iff managed settings.daemon.baseUrl).trans
    (SinkDraft.isAbsolute_ownSdpUrl_iff absolute id)
  refine ⟨valid, ?_, ?_, ?_⟩
  · intro url read last
    rw [valid]
    apply Url.isAbsolute_slash_iff read
    intro c final
    have counts := last c final
    rw [Url.isSurrounding, decide_eq_false_iff_not]
    omega
  · intro console request state asked path
    have trimmed : console.state.daemonUrl = trimSlashes settings.daemon.baseUrl := state
    obtain ⟨count, whole⟩ := exists_withSlashes settings.daemon.baseUrl
    have same : SinkDraft.withDefaults id console.state.daemonUrl =
        SinkDraft.withDefaults id settings.daemon.baseUrl := by
      rw [trimmed]
      nth_rewrite 2 [whole]
      rw [SinkDraft.withDefaults_withSlashes]
    rw [Service.respond_defaultSink console asked managed path, same]
  · exact SinkDraft.withDefaults_withSlashes id settings.daemon.baseUrl

/-- A blank behind the base URL does not count in the check, and spoils every default sink. -/
theorem trailing_blank_spoils_default_sink :
    let settings : ConsoleSettings :=
      { ConsoleSettings.default with daemon := ⟨"http://127.0.0.1:8080 ", 10⟩ }
    settings.check = .ok () ∧
      (SinkDraft.withDefaults 3 settings.daemon.baseUrl).validate.isValid = false := by
  decide +kernel

/-- Slashes behind the base URL do no harm. -/
theorem slashed_settings_serve_default_sink :
    let settings : ConsoleSettings :=
      { ConsoleSettings.default with daemon := ⟨"http://10.0.0.1:8080//", 10⟩ }
    settings.check = .ok () ∧ (3 : UInt8).toNat ≤ 63 ∧ ServesDefaultSink settings 3 ∧
      (SinkDraft.withDefaults 3 settings.daemon.baseUrl).validate.isValid = true := by
  intro settings
  have accepted : settings.check = .ok () := by decide +kernel
  have managed : (3 : UInt8).toNat ≤ 63 := by decide
  have serves := accepted_settings_serve_default_sinks settings accepted 3 managed
  exact ⟨accepted, managed, serves, serves.valid.mpr (by decide +kernel)⟩

end NetAudio
