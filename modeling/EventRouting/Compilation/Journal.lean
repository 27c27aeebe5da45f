import EventRouting.Compilation.Basic

/-!
# Journals

What a compilation has to say while it runs, in the order in which it comes about.
-/

namespace EventRouting

namespace Specification

/-- What is said when the template is complete. -/
def mergeNotes (s : Specification) (o : Options) : List Note :=
  match s.compile o with
  | .ok c => c.replaced.map .replaced ++ [.finished c.destinations.length c.skipped.length]
  | .error _ => []

/-- All that is said while the description is compiled, whether there is a template or not. -/
def journal (s : Specification) (o : Options) : List Note :=
  match o.policy.validate, BaseUrl.resolve s.servers o.environment with
  | .ok _, .ok baseUrl =>
      .baseUrl baseUrl :: (s.progress o baseUrl).notes ++ s.mergeNotes o
  | _, _ => []

end Specification

end EventRouting
