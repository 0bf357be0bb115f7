import NetAudio.Console.Settings
import NetAudio.Wire.Words

/-!
# JSON forms of console settings

Every section and every key may be left out.
-/

set_option autoImplicit false

namespace NetAudio

open Json

def DaemonLink.form : Record DaemonLink where
  blank := .default
  slots :=
    [.defaulted "base_url" (·.baseUrl) ({ · with baseUrl := · }),
      .defaulted "timeout_secs" (·.timeoutSecs) ({ · with timeoutSecs := · })]

instance : Wire DaemonLink := DaemonLink.form.wire

def ServiceSettings.form : Record ServiceSettings where
  blank := .default
  slots :=
    [.defaulted "bind_address" (·.bindAddress) ({ · with bindAddress := · }),
      .defaulted "http_port" (·.httpPort) ({ · with httpPort := · }),
      .defaulted "static_dir" (·.staticDir) ({ · with staticDir := · })]

instance : Wire ServiceSettings := ServiceSettings.form.wire

def PollingSettings.form : Record PollingSettings where
  blank := .default
  slots :=
    [.defaulted "ptp_status_secs" (·.ptpStatusSecs) ({ · with ptpStatusSecs := · }),
      .defaulted "remote_sources_secs" (·.remoteSourcesSecs) ({ · with remoteSourcesSecs := · })]

instance : Wire PollingSettings := PollingSettings.form.wire

def CalculatorSettings.form : Record CalculatorSettings where
  blank := .default
  slots :=
    [.defaulted "rate_policy" (·.ratePolicy) ({ · with ratePolicy := · }),
      .defaulted "max_packet_size" (·.maxPacketSize) ({ · with maxPacketSize := · })]

instance : Wire CalculatorSettings := CalculatorSettings.form.wire

def ConsoleSettings.form : Record ConsoleSettings where
  blank := .default
  slots :=
    [.defaulted "daemon" (·.daemon) ({ · with daemon := · }),
      .defaulted "ui" (·.service) ({ · with service := · }),
      .defaulted "polling" (·.polling) ({ · with polling := · }),
      .defaulted "calc" (·.calculator) ({ · with calculator := · })]

instance : Wire ConsoleSettings := ConsoleSettings.form.wire

end NetAudio
