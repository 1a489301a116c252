namespace DeviceClaims

/-- What a process that ended leaves behind. -/
structure Ending where
  exit : UInt32
  output : String := ""
  complaint : String := ""
  deriving DecidableEq, Inhabited

namespace Ending

def failure (message : String) : Ending :=
  { exit := 1, complaint := "Error: " ++ message ++ "\n" }

def crash : Ending := { exit := 101 }

/-- An end with complaints in front of all others, one on every line. -/
def after (e : Ending) (complaints : List String) : Ending :=
  { e with complaint := String.join (complaints.map (· ++ "\n")) ++ e.complaint }

def firstLine (e : Ending) : String := ((e.complaint.splitOn "\n").head?).getD ""

end Ending

end DeviceClaims
