import Reckon.Trace
import Reckon.Decimal.Layout

/-! What the command line says about its arguments. -/

namespace Reckon

structure Report where
  out : String
  err : String
  failed : Bool
  deriving DecidableEq, Repr

namespace Report

def samples : List String := ["2 + 2", "10 * 5 + 3", "(100 - 20) / 4"]

def empty : Report := ⟨"", "", false⟩

def append (first second : Report) : Report :=
  ⟨first.out ++ second.out, first.err ++ second.err, first.failed || second.failed⟩

def ofExpression (expression : String) : Report :=
  match evaluate expression with
  | .ok value => ⟨expression ++ " = " ++ Layout.result.text value ++ "\n", "", false⟩
  | .error failure =>
    ⟨"", expression ++ ": " ++ failure.kind.name ++ ": " ++ failure.message ++ "\n", true⟩

def ofArguments (arguments : List String) : Report :=
  let expressions := if arguments.isEmpty then samples else arguments
  expressions.foldl (fun report expression => report.append (ofExpression expression)) empty

def exitCode (report : Report) : UInt32 := if report.failed then 1 else 0

end Report

end Reckon
