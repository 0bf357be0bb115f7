import NetAudio.Stream
import NetAudio.Wire.Words

/-!
# JSON forms of streams

Sources and sinks, as stored and as drafts.  A draft has the slots of its record; only there the id
must be given.
-/

set_option autoImplicit false

namespace NetAudio

open Json

def Source.form : Record Source where
  blank :=
    { id := 0, enabled := false, name := "", io := "", maxSamplesPerPacket := 0, codec := .l16
      address := "", ttl := 0, payloadType := 0, dscp := 0, refclkPtpTraceable := false, map := [] }
  slots :=
    [.defaulted "id" (·.id) ({ · with id := · }),
      .required "enabled" (·.enabled) ({ · with enabled := · }),
      .required "name" (·.name) ({ · with name := · }),
      .required "io" (·.io) ({ · with io := · }),
      .required "max_samples_per_packet" (·.maxSamplesPerPacket)
        ({ · with maxSamplesPerPacket := · }),
      .required "codec" (·.codec) ({ · with codec := · }),
      .defaulted "address" (·.address) ({ · with address := · }),
      .required "ttl" (·.ttl) ({ · with ttl := · }),
      .required "payload_type" (·.payloadType) ({ · with payloadType := · }),
      .required "dscp" (·.dscp) ({ · with dscp := · }),
      .required "refclk_ptp_traceable" (·.refclkPtpTraceable) ({ · with refclkPtpTraceable := · }),
      .required "map" (·.map) ({ · with map := · })]

instance : Wire Source := Source.form.wire

def SourceDraft.form : Record SourceDraft where
  blank := .withDefaults 0
  slots :=
    [.required "id" (·.id) ({ · with id := · }),
      .required "enabled" (·.enabled) ({ · with enabled := · }),
      .required "name" (·.name) ({ · with name := · }),
      .required "io" (·.io) ({ · with io := · }),
      .required "max_samples_per_packet" (·.maxSamplesPerPacket)
        ({ · with maxSamplesPerPacket := · }),
      .required "codec" (·.codec) ({ · with codec := · }),
      .defaulted "address" (·.address) ({ · with address := · }),
      .required "ttl" (·.ttl) ({ · with ttl := · }),
      .required "payload_type" (·.payloadType) ({ · with payloadType := · }),
      .required "dscp" (·.dscp) ({ · with dscp := · }),
      .required "refclk_ptp_traceable" (·.refclkPtpTraceable) ({ · with refclkPtpTraceable := · }),
      .required "map" (·.map) ({ · with map := · })]

instance : Wire SourceDraft := SourceDraft.form.wire

def Sink.form : Record Sink where
  blank :=
    { id := 0, name := "", io := "", useSdp := false, source := "", sdp := "", delay := 0
      ignoreRefclkGmid := false, map := [] }
  slots :=
    [.defaulted "id" (·.id) ({ · with id := · }),
      .required "name" (·.name) ({ · with name := · }),
      .required "io" (·.io) ({ · with io := · }),
      .required "use_sdp" (·.useSdp) ({ · with useSdp := · }),
      .required "source" (·.source) ({ · with source := · }),
      .required "sdp" (·.sdp) ({ · with sdp := · }),
      .required "delay" (·.delay) ({ · with delay := · }),
      .required "ignore_refclk_gmid" (·.ignoreRefclkGmid) ({ · with ignoreRefclkGmid := · }),
      .required "map" (·.map) ({ · with map := · })]

instance : Wire Sink := Sink.form.wire

def SinkDraft.form : Record SinkDraft where
  blank := .withDefaults 0 ""
  slots :=
    [.required "id" (·.id) ({ · with id := · }),
      .required "name" (·.name) ({ · with name := · }),
      .required "io" (·.io) ({ · with io := · }),
      .required "use_sdp" (·.useSdp) ({ · with useSdp := · }),
      .required "source" (·.source) ({ · with source := · }),
      .required "sdp" (·.sdp) ({ · with sdp := · }),
      .required "delay" (·.delay) ({ · with delay := · }),
      .required "ignore_refclk_gmid" (·.ignoreRefclkGmid) ({ · with ignoreRefclkGmid := · }),
      .required "map" (·.map) ({ · with map := · })]

instance : Wire SinkDraft := SinkDraft.form.wire

end NetAudio
