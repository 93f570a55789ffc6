import ClusterAdvisor.Rules.StormSite
import ClusterAdvisor.Failure

/-!
Which values are recommended. A recommendation reads the services with their current configuration
and makes assignments; those made before a failure stay made.
-/

namespace ClusterAdvisor

structure Assignment where
  site : String
  property : String
  value : String
  deriving DecidableEq, Repr

def Configurations.assign (c : Configurations) (a : Assignment) : Configurations :=
  c.put a.site a.property (.text a.value)

def Configurations.assignAll (c : Configurations) (as : List Assignment) : Configurations :=
  as.foldl assign c

namespace Rules

inductive Advised where
  /-- There is no Storm site, so only the database host was set. -/
  | withoutStorm
  | complete (mysqlHost restAddress : String)
  deriving DecidableEq, Repr

/-- The assignments of a recommendation, and how it ended. -/
structure Recommendation where
  assignments : List Assignment
  outcome : Except Failure Advised

def serviceFirstHost (s : Services) (service component : String) : Except Failure String :=
  match (s.serviceHosts service component).head? with
  | some host => .ok host
  | none => .error (.missingComponent component)

/-- Where the interface of Storm answers: the host of its component and the port of the site. -/
def restAddress (s : Services) (site : Site) : Except Failure String := do
  let host ← serviceFirstHost s storm stormUi
  match site.get? uiPort with
  | some port => pure (host ++ ":" ++ port.display)
  | none => throw (.missingProperty stormSite uiPort)

/-- What is set for a desired value: the value itself where there is none, and for a class path that
is another one the current paths with those that it lacks. Any other value is left as it is. -/
def Desired.assignment? (d : Desired) (site : Site) : Option Assignment :=
  match site.get? d.property with
  | none => some ⟨stormSite, d.property, d.value⟩
  | some current =>
    if d.property = topologyClasspath then
      let shown := current.display
      if shown = d.value then none
      else some ⟨stormSite, d.property, mergeClasspath shown d.value⟩
    else none

def desiredAssignments (table : List Desired) (site : Site) : List Assignment :=
  table.filterMap (·.assignment? site)

/-- What is recommended behind the database host. -/
def stormRecommendation (s : Services) (mysql : String) : Recommendation :=
  match s.configurations.get? stormSite with
  | none => ⟨[], .ok .withoutStorm⟩
  | some site =>
    match restAddress s site with
    | .error failure => ⟨[], .error failure⟩
    | .ok address =>
      ⟨⟨metronEnv, stormRestAddress, address⟩ :: desiredAssignments desiredValues site,
        .ok (.complete mysql address)⟩

def recommendation (s : Services) : Recommendation :=
  match serviceFirstHost s metron metronMysql with
  | .error failure => ⟨[], .error failure⟩
  | .ok host =>
    let rest := stormRecommendation s host
    ⟨⟨metronEnv, mysqlHost, host⟩ :: rest.assignments, rest.outcome⟩

/-- Recommends values and sets them in a configuration, which may be another one than that of the
services; also how that ended. -/
def recommend (s : Services) (c : Configurations) : Configurations × Except Failure Advised :=
  let r := recommendation s
  (c.assignAll r.assignments, r.outcome)

end Rules

end ClusterAdvisor
