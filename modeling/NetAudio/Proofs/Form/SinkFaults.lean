import Mathlib.Data.List.TakeWhile
import NetAudio.Proofs.Form.Run
import NetAudio.Proofs.Form.SourceFaults

/-!
# What is wrong with a sink

The faults of a sink draft.  The two descriptions are judged by different rules: an SDP text is missing
if it has nothing but white space in it, a URL only if it is the empty text.  Only the description in
use is judged, so a draft can go over to the other one and back without a change of its issues.
-/

set_option autoImplicit false

namespace NetAudio

theorem Text.trim_eq_empty_iff (text : String) :
    trim text = "" ↔ ∀ c ∈ text.toList, isWhiteSpace c = true := by
  rw [trim, String.ofList_eq_empty_iff, List.reverse_eq_nil_iff, List.dropWhile_eq_nil_iff]
  simp only [List.mem_reverse]
  constructor
  · intro dropped c member
    rw [← List.takeWhile_append_dropWhile (p := isWhiteSpace) (l := text.toList),
      List.mem_append] at member
    rcases member with leading | rest
    · exact List.mem_takeWhile_imp leading
    · exact dropped c rest
  · intro blank c member
    exact blank c ((List.dropWhile_sublist isWhiteSpace).mem member)

namespace SinkDraft

inductive Fault (draft : SinkDraft) : Field → Issue → Prop where
  | id (large : 63 < draft.id.toNat) : Fault draft .id (.outOfRange draft.id.toNat 0 63)
  | name (empty : draft.name = "") : Fault draft .name .required
  | sdp (used : draft.useSdp = true)
      (blank : ∀ c ∈ draft.sdp.toList, Text.isWhiteSpace c = true) : Fault draft .sdp .required
  | sourceMissing (used : draft.useSdp = false) (empty : draft.source = "") :
      Fault draft .source .required
  | sourceOther (used : draft.useSdp = false) (given : draft.source ≠ "")
      (other : Url.isAbsolute draft.source = false) : Fault draft .source .malformed
  | delay (other : draft.delay ∉ [192, 384, 576, 768, 960]) : Fault draft .delay .notOffered

/-! ## What each check finds -/

theorem distinct_checks (draft : SinkDraft) : (draft.validate.checks.map (·.1)).Nodup := by
  cases used : draft.useSdp with
  | true => simp [validate, checkDescription, used, checkId, checkName]
  | false => simp [validate, checkDescription, used, checkId, checkName]

/-- The description is judged as what it is used for, under the field of that use. -/
theorem checkDescription_eq_some (draft : SinkDraft) (field : Field) (issue : Issue) :
    (field, some issue) = draft.checkDescription ↔
      (draft.useSdp = true ∧ field = .sdp ∧ issue = .required ∧
        ∀ c ∈ draft.sdp.toList, Text.isWhiteSpace c = true) ∨
      (draft.useSdp = false ∧ field = .source ∧
        ((draft.source = "" ∧ issue = .required) ∨
          ((draft.source ≠ "" ∧ Url.isAbsolute draft.source = false) ∧ issue = .malformed))) := by
  cases used : draft.useSdp with
  | true =>
      rw [checkDescription, if_pos used, Prod.mk.injEq, eq_comm (b := Issue.unlessGiven _),
        Issue.unlessGiven_eq_some, Text.trim_eq_empty_iff]
      simp [and_comm]
  | false =>
      by_cases empty : draft.source = ""
      · simp [checkDescription, used, empty]
      · simp [checkDescription, used, empty, eq_comm (b := Issue.unlessFormed _),
          Issue.unlessFormed_eq_some]

theorem mem_checks_iff (draft : SinkDraft) (field : Field) (issue : Issue) :
    (field, some issue) ∈ draft.validate.checks ↔ draft.Fault field issue := by
  simp only [validate, List.mem_cons, List.not_mem_nil, or_false, checkDescription_eq_some]
  simp only [Check.found_iff, checkId_eq_some, checkName, Issue.unlessGiven_eq_some,
    Issue.unlessOffered_contains_eq_some]
  simp only [checkId, sinkDelays]
  constructor
  · rintro (⟨rfl, large, rfl⟩ | ⟨rfl, empty, rfl⟩ | (⟨used, rfl, rfl, blank⟩ |
      ⟨used, rfl, ⟨empty, rfl⟩ | ⟨⟨given, other⟩, rfl⟩⟩) | ⟨rfl, other, rfl⟩)
    · exact .id large
    · exact .name empty
    · exact .sdp used blank
    · exact .sourceMissing used empty
    · exact .sourceOther used given other
    · exact .delay other
  · intro fault
    cases fault with
    | id large => simp [large]
    | name empty => simp [empty]
    | sdp used blank => simpa [used] using blank
    | sourceMissing used empty => simp [used, empty]
    | sourceOther used given other => simp [used, given, other]
    | delay other => simp [other]

/-! ## What is not judged -/

/-- The two drafts are equal in all that is judged: the description in use and the rest of the fields
with a check. -/
structure JudgedAlike (one other : SinkDraft) : Prop where
  id : one.id = other.id
  name : one.name = other.name
  useSdp : one.useSdp = other.useSdp
  description : if one.useSdp then one.sdp = other.sdp else one.source = other.source
  delay : one.delay = other.delay

theorem validate_of_judgedAlike {one other : SinkDraft} (alike : one.JudgedAlike other) :
    one.validate = other.validate := by
  have described : one.checkDescription = other.checkDescription := by
    have same := alike.description
    rw [checkDescription, checkDescription, ← alike.useSdp]
    split
    · next used =>
        rw [if_pos used] at same
        rw [same]
    · next used =>
        rw [if_neg used] at same
        rw [same]
  rw [validate, validate, alike.id, alike.name, alike.delay, described]

/-- Another SDP text changes no issue but that of the SDP text. -/
theorem Fault.withSdp {draft : SinkDraft} {field : Field} {issue : Issue}
    (fault : draft.Fault field issue) (other : field ≠ .sdp) (sdp : String) :
    Fault { draft with sdp } field issue := by
  cases fault with
  | id large => exact .id large
  | name empty => exact .name empty
  | sdp => exact absurd rfl other
  | sourceMissing used empty => exact .sourceMissing used empty
  | sourceOther used given unread => exact .sourceOther used given unread
  | delay unlisted => exact .delay unlisted

theorem fault_withSdp_iff (draft : SinkDraft) (sdp : String)
    (shown : ∃ c ∈ sdp.toList, Text.isWhiteSpace c = false) (field : Field) (issue : Issue) :
    Fault { draft with sdp } field issue ↔ field ≠ .sdp ∧ draft.Fault field issue := by
  constructor
  · intro fault
    have other : field ≠ .sdp := by
      rintro rfl
      cases fault with
      | sdp _ blank =>
          obtain ⟨c, member, visible⟩ := shown
          rw [blank c member] at visible
          cases visible
    exact ⟨other, fault.withSdp other draft.sdp⟩
  · rintro ⟨other, fault⟩
    exact fault.withSdp other sdp

end SinkDraft

/-! ## Edits of the description -/

namespace EditForm

theorem setUseSdp_of_editing (form : EditForm SinkDraft) (editing : form.state = .editing)
    (useSdp : Bool) :
    carryOut (setUseSdp useSdp) form =
      (.ok (), { form with draft := { form.draft with useSdp } }) :=
  carryOut_update_of_sameId _ form editing rfl

/-- Going over to another description and back leaves a form as it was. -/
theorem setUseSdp_back_of_editing (form : EditForm SinkDraft) (editing : form.state = .editing)
    (useSdp : Bool) :
    carryOut (setUseSdp form.draft.useSdp) (carryOut (setUseSdp useSdp) form).2 = (.ok (), form) := by
  rw [setUseSdp_of_editing form editing]
  exact setUseSdp_of_editing
    { form with draft := { form.draft with useSdp } } editing form.draft.useSdp

theorem setUseSdp_back (form : EditForm SinkDraft) (useSdp : Bool) :
    (carryOut (setUseSdp form.draft.useSdp) (carryOut (setUseSdp useSdp) form).2).2 = form := by
  by_cases editing : form.state = .editing
  · rw [setUseSdp_back_of_editing form editing]
  · have refused (useSdp : Bool) : (carryOut (setUseSdp useSdp) form).2 = form := by
      rw [setUseSdp, carryOut_update, if_neg editing]
    rw [refused, refused]

theorem selectRemote_of_editing (form : EditForm SinkDraft) (editing : form.state = .editing)
    (sdp : String) (given : sdp ≠ "") :
    carryOut (selectRemote sdp) form = (.ok (), { form with draft := { form.draft with sdp } }) := by
  rw [carryOut_selectRemote, if_pos editing, if_neg given]

/-- A form takes the SDP text of an announced source if that is not blank.  It clears the issue of
the SDP text and touches no other one. -/
theorem selectRemote_clears (form : EditForm SinkDraft) (editing : form.state = .editing)
    (sdp : String) (shown : ∃ c ∈ sdp.toList, Text.isWhiteSpace c = false) :
    ∃ after, carryOut (selectRemote sdp) form = (.ok (), after) ∧
      ∀ field, after.validate.issue? field =
        if field = .sdp then none else form.validate.issue? field := by
  have given : sdp ≠ "" := by
    rintro rfl
    obtain ⟨c, member, -⟩ := shown
    cases member
  refine ⟨_, selectRemote_of_editing form editing sdp given, ?_⟩
  intro field
  have reported (draft : SinkDraft) (issue : Issue) :
      draft.validate.issue? field = some issue ↔ draft.Fault field issue :=
    (Validation.issue?_eq_some_iff draft.distinct_checks field issue).trans
      (draft.mem_checks_iff field issue)
  ext issue
  rw [Option.ite_none_left_eq_some]
  exact (reported _ issue).trans ((form.draft.fault_withSdp_iff sdp shown field issue).trans
    (and_congr_right' (reported form.draft issue).symm))

end EditForm

namespace SinkDraft

/-- The checks report every fault of a sink draft and nothing else, whatever the context.  The
description that is not in use does not matter: a form may go over to it and back, and it may take the
SDP text of an announced source, which never makes an issue. -/
theorem sink_faults_are_reported :
    (∀ (draft : SinkDraft) (context : FormContext),
      (StreamDraft.validate draft context).Reports draft.Fault) ∧
    (∀ (one other : SinkDraft) (first second : FormContext), one.JudgedAlike other →
      StreamDraft.validate one first = StreamDraft.validate other second) ∧
    (∀ (form : EditForm SinkDraft) (useSdp : Bool),
      let turned := carryOut (EditForm.setUseSdp useSdp) form
      let back := carryOut (EditForm.setUseSdp form.draft.useSdp) turned.2
      back.2.validate = form.validate ∧
        (form.state = .editing → turned.1 = .ok () ∧ turned.2.draft.useSdp = useSdp ∧
          back.1 = .ok ())) ∧
    ∀ (form : EditForm SinkDraft) (sdp : String), form.state = .editing →
      (∃ c ∈ sdp.toList, Text.isWhiteSpace c = false) →
        ∃ after, carryOut (EditForm.selectRemote sdp) form = (.ok (), after) ∧
          ∀ field, after.validate.issue? field =
            if field = .sdp then none else form.validate.issue? field := by
  refine ⟨?_, ?_, ?_, ?_⟩
  · intro draft _
    exact Validation.reports_of_checks draft.distinct_checks draft.mem_checks_iff
  · intro one other _ _ alike
    exact validate_of_judgedAlike alike
  · intro form useSdp turned back
    refine ⟨congrArg EditForm.validate (form.setUseSdp_back useSdp), ?_⟩
    intro editing
    have there := form.setUseSdp_of_editing editing useSdp
    exact ⟨congrArg Prod.fst there, congrArg (fun run => run.2.draft.useSdp) there,
      congrArg Prod.fst (form.setUseSdp_back_of_editing editing useSdp)⟩
  · intro form sdp editing shown
    exact form.selectRemote_clears editing sdp shown

/-- A new sink that is to be described by a blank SDP text takes the one of an announced source. -/
theorem blank_sink_takes_announced_sdp :
    let draft : SinkDraft := { withDefaults 0 "http://localhost" with useSdp := true, sdp := "\t " }
    let form : EditForm SinkDraft := .start .add draft ⟨⟨48000, 48, 1⟩, 1440⟩
    form.validate.issue? .sdp = some .required ∧
      StreamDraft.validate { draft with source := "" } form.context = form.validate ∧
      ∃ after, carryOut (EditForm.selectRemote "v=0\r\n") form = (.ok (), after) ∧
        after.validate.issue? .sdp = none := by
  intro draft form
  refine ⟨by decide, ?_, ?_⟩
  · exact sink_faults_are_reported.2.1 _ draft _ form.context ⟨rfl, rfl, rfl, rfl, rfl⟩
  · obtain ⟨after, taken, issues⟩ :=
      sink_faults_are_reported.2.2.2 form "v=0\r\n" rfl ⟨'v', by decide, by decide⟩
    exact ⟨after, taken, issues .sdp⟩

end SinkDraft

end NetAudio
