import NetAudio.Daemon.Call
import NetAudio.Proofs.Text.Digits
import NetAudio.Proofs.Url.Below

/-!
# Paths of calls

A path is made of letters, digits and slashes, and its last part is the id of the stream, if the call is
about one.
-/

set_option autoImplicit false

namespace NetAudio

section Ids
variable (id : UInt8)

theorem isDigit_of_mem_id : ∀ c ∈ id.toNat.repr.toList, c.isDigit = true := by
  intro c member
  rw [Nat.toList_repr] at member
  exact Decimal.isDigit_of_mem member

theorem plain_id : Url.Plain id.toNat.repr.toList := by
  intro c member
  simp [Url.isPlain, Char.isAlphanum, isDigit_of_mem_id id c member]

theorem slash_not_mem_id : '/' ∉ id.toNat.repr.toList := by
  intro member
  exact absurd (isDigit_of_mem_id id '/' member) (by decide)

theorem plain_of_stem {stem : String} (plain : Url.Plain stem.toList) :
    Url.Plain (stem ++ id.toNat.repr).toList := by
  rw [String.toList_append]
  exact plain.append (plain_id id)

end Ids

theorem DaemonCall.plain_path (call : DaemonCall) : Url.Plain call.path.toList := by
  cases call with
  | setSettings _ => exact (by decide : Url.Plain "/config".toList)
  | setPtpSettings _ => exact (by decide : Url.Plain "/ptp/config".toList)
  | sinkStatus id => exact plain_of_stem id (by decide)
  | sourceSdp id => exact plain_of_stem id (by decide)
  | putSource record => exact plain_of_stem record.id (by decide)
  | deleteSource id => exact plain_of_stem id (by decide)
  | putSink record => exact plain_of_stem record.id (by decide)
  | deleteSink id => exact plain_of_stem id (by decide)
  | _ => decide

end NetAudio
