/-!
# Output streams

The two pipes that a process is started with to write to.
-/

namespace BindingCoverage.Host

inductive Stream where
  | stdout
  | stderr
  deriving DecidableEq, Repr

def Stream.name : Stream → String
  | .stdout => "stdout"
  | .stderr => "stderr"

def Stream.all : List Stream := [.stdout, .stderr]

end BindingCoverage.Host
