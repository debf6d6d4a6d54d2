import SerialShare.Config.Basic
import SerialShare.Record.Printer

/-!
# Writing configurations

A configuration is written with every section and every setting, in a fixed order.
-/

namespace SerialShare

open Record

/-- The entries of the section on the device. -/
def DeviceSettings.written (settings : DeviceSettings) : List (String × List Char) :=
  [("path", textOf settings.path), ("baud", numberOf settings.baud.toNat),
    ("mock", booleanOf settings.mock)]

/-- The entries of the section on clients. -/
def ServerSettings.written (settings : ServerSettings) : List (String × List Char) :=
  [("host", textOf settings.host.text), ("port", numberOf settings.port.toNat)]

/-- The entries of the section on the waits. -/
def Timing.written (timing : Timing) : List (String × List Char) :=
  [("settle_ms", numberOf timing.settle.toNat),
    ("response_latency_ms", numberOf timing.latency.toNat)]

namespace Config

/-- The sections of a configuration. -/
def written (config : Config) : List (String × List Char) :=
  [("device", recordOf 1 config.device.written), ("server", recordOf 1 config.server.written),
    ("timing", recordOf 1 config.timing.written)]

/-- The text of a configuration. -/
def text (config : Config) : String :=
  String.ofList (recordOf 0 config.written)

end Config
end SerialShare
