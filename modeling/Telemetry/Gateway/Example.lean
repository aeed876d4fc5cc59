/-!
# A sample configuration

A configuration file to begin with, with every setting explained.
-/

namespace Telemetry.Gateway

def exampleLines : List String :=
  ["# fieldflow gateway configuration",
    "",
    "# Store holding the latest reading per (device, register)",
    "[state_storage]",
    "name = \"state\"",
    "input_capacity = 4",
    "subscriber_capacity = 256",
    "# \"block\" stalls the store behind a slow consumer, \"drop_newest\" skips",
    "# updates for that consumer instead",
    "overflow = \"block\"",
    "",
    "# Store holding pending commands for writable registers",
    "[command_storage]",
    "name = \"commands\"",
    "",
    "# Settings shared by every per-device register catalog",
    "[register_db]",
    "subscriber_capacity = 16",
    "overflow = \"block\"",
    "",
    "[[devices]]",
    "name = \"grid-meter\"",
    "kind = \"meter\"",
    "poll_interval_ms = 1000",
    "variance = 2.0",
    "",
    "[[devices]]",
    "name = \"pump-relay\"",
    "kind = \"relay\"",
    "poll_interval_ms = 500",
    "",
    "[[devices]]",
    "name = \"house-battery\"",
    "kind = \"battery\"",
    "poll_interval_ms = 2000",
    "# No variance: identical readings are suppressed after the first",
    "variance = 0.0",
    "",
    "# Logs every value of the listed devices",
    "[[consumers]]",
    "name = \"console\"",
    "devices = [\"grid-meter\", \"house-battery\"]",
    "send_initial = true",
    "",
    "[consumers.registers]",
    "skip_categories = [\"Info\"]",
    "",
    "# Empty device list means every device",
    "[[consumers]]",
    "name = \"controls\"",
    "registers = \x7b include_categories = [\"Control\"], default_include = false \x7d"]

def exampleText : String :=
  String.join (exampleLines.map (· ++ "\n"))

end Telemetry.Gateway
