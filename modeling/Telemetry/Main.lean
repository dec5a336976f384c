/-
This file is the program. It reads the command line, lets the demonstration run
for the given time, and prints the exposition of its metrics at the given
intervals. Notices, and on request the datagrams, go to the error output.
-/

import Telemetry.Application.CommandLine
import Telemetry.Application.Demonstration
import Telemetry.Draws

namespace Telemetry.Application

/-- Print what the demonstration has to report. -/
def report (commandLine : CommandLine) (server : Demonstration) : IO Demonstration := do
  let (datagrams, notices, rest) := server.takeReports
  for notice in notices do
    if notice.level = .warning || commandLine.verbose then
      IO.eprintln (notice.level.word ++ ": " ++ notice.message)
  if commandLine.verbose then
    for datagram in datagrams do
      IO.eprintln datagram
  return rest

/-- Let the demonstration run for the given time. -/
def demonstrate (commandLine : CommandLine) (start : Demonstration) : IO Unit := do
  let perSecond := 1000 / Demonstration.requestPeriod
  let mut server := start
  for done in List.range (commandLine.time * perSecond) do
    server := server.serve
    IO.sleep (UInt32.ofNat Demonstration.requestPeriod)
    server ← report commandLine server
    if (done + 1) % (commandLine.printInterval * perSecond) = 0 then
      let (text, shown) := server.expose
      IO.print text
      server := shown
  let _ ← report commandLine server.finish

/-- Run with the given arguments. Settings come from the tree of a configuration, and nothing here
makes that tree from the text of a file: a run that names such a file is refused, and every other
run has the standard settings. -/
def run (arguments : List String) : IO UInt32 := do
  match CommandLine.read arguments with
  | .error .helpRequested =>
    IO.print helpText
    return 0
  | .error error =>
    IO.eprintln ("error: " ++ error.message)
    return 2
  | .ok commandLine =>
    if commandLine.config.isSome then
      IO.eprintln "error: there is no reader for the text of a configuration file"
      return 1
    let seed := UInt64.ofNat (← IO.monoNanosNow)
    match Demonstration.starting .standard .accepting (Draws.stream seed) with
    | .error error =>
      IO.eprintln ("error: " ++ error.message)
      return 1
    | .ok server =>
      demonstrate commandLine server
      return 0

end Telemetry.Application

/-- The program. -/
def main (arguments : List String) : IO UInt32 :=
  Telemetry.Application.run arguments
