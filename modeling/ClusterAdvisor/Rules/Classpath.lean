import ClusterAdvisor.Text.Pieces

/-!
Class paths: paths with colons between them. A path counts as present wherever its text occurs, also
as a part of a longer path.
-/

namespace ClusterAdvisor.Rules

open Text

/-- The paths of a class path; empty ones do not count. -/
def paths (classpath : List Char) : List (List Char) :=
  (pieces ':' classpath).filter (!·.isEmpty)

/-- The paths of `desired` that do not occur in `current`. -/
def missingPaths (desired current : String) : List String :=
  ((paths desired.toList).filter fun path => !occursIn path current.toList).map String.ofList

/-- Appends a path, with a colon unless it is the first. -/
def appendPath (classpath path : List Char) : List Char :=
  if classpath.isEmpty then path else classpath ++ ':' :: path

def addPath (classpath path : List Char) : List Char :=
  if occursIn path classpath then classpath else appendPath classpath path

/-- Appends the paths of `desired` that `current` lacks, one after the other; a path that occurs in
one appended before is not appended again. -/
def mergeClasspath (current desired : String) : String :=
  String.ofList ((paths desired.toList).foldl addPath current.toList)

end ClusterAdvisor.Rules
