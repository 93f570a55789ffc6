import ClusterAdvisor.Directory

/-!
What a run leaves behind. A run that fails, at whatever point, has printed nothing and written
nothing; one that succeeds has put its answer in one place. The answer is the one to the documents
as they were before the run, even if it is written over one of them. A request for help is no run of
either kind.
-/

namespace ClusterAdvisor

namespace Directory

variable {d : Directory} {path text : String}

end Directory

namespace CommandLine

variable {args : Arguments} {filter : Log.Filter} {events : List Log.Event} {failure : Failure}

/-- The arguments are understood, the settings are right, the documents can be read, and the action
has an answer to them. -/
def Answers (args : List String) (vars : Option Variables) (files : Files)
    (arguments : Arguments) (response : Response) : Prop :=
  Arguments.ofList? args = some arguments ∧
    ∃ known settings request, vars = some known ∧
      effectiveSettings arguments known = .ok settings ∧
      arguments.files.load files = .ok request ∧
      request.answer settings arguments.action = .ok response

section

variable {args : List String} {environment : Variables} {d : Directory}

end

end CommandLine

end ClusterAdvisor
