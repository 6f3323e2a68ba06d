import Reckon.Report

/-! The command line: every argument is an expression. -/

def main (arguments : List String) : IO UInt32 := do
  let report := Reckon.Report.ofArguments arguments
  IO.print report.out
  IO.eprint report.err
  return report.exitCode
